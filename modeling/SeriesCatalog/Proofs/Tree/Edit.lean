/-
The trees that deletions leave, and single edits. Deleting one database by its own path takes it away
with the series that it owns and leaves everything else; where the path is no database nothing happens.
So what comes in under a new database goes again with the database, and the tree is what it was. A
series comes in below a database as soon as the series already there leave its path free, because
whatever is stored below other databases lies apart from it.
-/
import SeriesCatalog.Proofs.Path.Pattern
import SeriesCatalog.Proofs.Tree.Answers
import SeriesCatalog.Proofs.Tree.Invariant

namespace SeriesCatalog.Tree

open SeriesCatalog.Path

variable {t u : Tree} {p q : Path}

theorem Invariant.ext (ht : t.Invariant) (hu : u.Invariant) (hdb : ∀ db, db ∈ t.databases ↔ db ∈ u.databases)
    (hs : ∀ s, s ∈ t.series ↔ s ∈ u.series) : t = u := by
  have hdatabases := ht.databasesAscending.ext hu.databasesAscending hdb
  have hseries := ht.seriesAscending.ext hu.seriesAscending hs
  cases t
  cases u
  rw [Tree.mk.injEq]
  exact ⟨hdatabases, hseries⟩

/-! ## Trees after a deletion -/

/-- The series that fit the pattern go; where there are none the tree stays as it is. -/
theorem apply_deleteSeries_snd (t : Tree) (p : Path) :
    (t.apply (.deleteSeries p)).2 = { t with series := t.series.filter fun s => !s.path.fits p } := by
  show (t.settle (t.deleteSeries p)).2 = _
  cases hdelete : t.deleteSeries p with
  | ok t' => exact (deleteSeries_eq_ok_iff.1 hdelete).2
  | error reason =>
    have hall : t.series.filter (fun s => !s.path.fits p) = t.series := by
      refine List.filter_eq_self.2 fun s hs => ?_
      rw [Bool.not_eq_true', Bool.eq_false_iff]
      intro hfits
      rw [deleteSeries_eq_ok_iff.2 ⟨⟨s, hs, hfits⟩, rfl⟩] at hdelete
      cases hdelete
    rw [hall]
    rfl

theorem without_nil (t : Tree) : t.without [] = t := by
  simp [without]

/-- The databases that are selected go with the series below them; where there are none the tree stays as it is. -/
theorem apply_deleteDatabases_snd (t : Tree) (patterns : List Path) :
    (t.apply (.deleteDatabases patterns)).2 = t.without (t.selectedDatabases patterns) := by
  show (t.settle (t.deleteDatabases patterns)).2 = _
  cases hdelete : t.deleteDatabases patterns with
  | ok t' => exact (deleteDatabases_eq_ok_iff.1 hdelete).2
  | error reason =>
    have hnil : t.selectedDatabases patterns = [] := by
      by_contra hne
      rw [deleteDatabases_eq_ok_iff.2 ⟨hne, rfl⟩] at hdelete
      cases hdelete
    rw [hnil, without_nil]
    rfl

/-! ## Deleting one database -/

/-- The tree without a database and the series below it; the same tree if the path is no database. -/
def dropped (t : Tree) (p : Path) : Tree := if p ∈ t.databases then t.without [p] else t

theorem dropped_of_notMem (h : p ∉ t.databases) : t.dropped p = t := if_neg h

theorem without_congr {a b : List Path} (h : ∀ x, x ∈ a ↔ x ∈ b) : t.without a = t.without b := by
  have hany : ∀ s : Series, a.any (·.isAncestorOf s.path) = b.any (·.isAncestorOf s.path) := by
    intro s
    rw [Bool.eq_iff_iff, List.any_eq_true, List.any_eq_true]
    simp only [h]
  simp only [without, h, hany]

/-- The path of a database selects that database alone. -/
theorem mem_selectedDatabases_iff (hstar : '*' ∉ p.text.toList) (hsys : p ≠ systemDatabase) {db : Path} :
    db ∈ t.selectedDatabases [p] ↔ db ∈ t.databases ∧ db = p := by
  simp only [selectedDatabases, userDatabases, List.mem_filter, List.any_cons, List.any_nil, Bool.or_false,
    fits_iff_eq hstar, decide_eq_true_eq]
  constructor
  · rintro ⟨⟨hdb, -⟩, he⟩
    exact ⟨hdb, he⟩
  · rintro ⟨hdb, he⟩
    exact ⟨⟨hdb, he ▸ hsys⟩, he⟩

/-- Deleting a database by its path drops it. -/
theorem apply_deleteDatabases (hstar : '*' ∉ p.text.toList) (hsys : p ≠ systemDatabase) :
    (t.apply (.deleteDatabases [p])).2 = t.dropped p := by
  have hmem : ∀ db, db ∈ t.selectedDatabases [p] ↔ db ∈ t.databases ∧ db = p :=
    fun _ => mem_selectedDatabases_iff hstar hsys
  rw [apply_deleteDatabases_snd]
  unfold dropped
  split
  · rename_i hp
    refine without_congr fun x => ?_
    rw [hmem, List.mem_singleton]
    exact ⟨fun hx => hx.2, fun hx => ⟨hx ▸ hp, hx⟩⟩
  · rename_i hp
    have hnil : t.selectedDatabases [p] = [] := by
      refine List.eq_nil_iff_forall_not_mem.2 fun x hx => ?_
      obtain ⟨hdb, he⟩ := (hmem x).1 hx
      exact hp (he ▸ hdb)
    rw [hnil, without_nil]

theorem Invariant.dropped (h : t.Invariant) (hsys : p ≠ systemDatabase) : (t.dropped p).Invariant := by
  unfold Tree.dropped
  split
  · exact h.without fun hm => hsys (List.mem_singleton.1 hm).symm
  · exact h

theorem mem_databases_dropped {db : Path} : db ∈ (t.dropped p).databases ↔ db ∈ t.databases ∧ db ≠ p := by
  unfold Tree.dropped
  split
  · simp [without]
  · rename_i hp
    exact ⟨fun hdb => ⟨hdb, fun he => hp (he ▸ hdb)⟩, fun hdb => hdb.1⟩

/-- The series that go are those that the database owns. -/
theorem Invariant.mem_series_dropped (h : t.Invariant) {s : Series} :
    s ∈ (t.dropped p).series ↔ s ∈ t.series ∧ t.ownerOf? s.path ≠ some p := by
  unfold Tree.dropped
  split
  · rename_i hp
    rw [Ne, h.ownerOf?_eq_some_iff]
    simp [Tree.without, hp]
  · rename_i hp
    refine ⟨fun hs => ⟨hs, fun ho => hp (h.ownerOf?_eq_some_iff.1 ho).1⟩, fun hs => hs.1⟩

/-- What stays keeps its owner. -/
theorem Invariant.ownerOf?_dropped (h : t.Invariant) (hsys : p ≠ systemDatabase) {s : Series}
    (hs : s ∈ (t.dropped p).series) : (t.dropped p).ownerOf? s.path = t.ownerOf? s.path := by
  unfold Tree.dropped at hs ⊢
  split at hs
  · rename_i hp
    rw [if_pos hp]
    exact h.ownerOf?_without (fun hm => hsys (List.mem_singleton.1 hm).symm) hs
  · rename_i hp
    rw [if_neg hp]

/-- Two databases go with what they own, whichever of them are there. -/
theorem Invariant.dropped_dropped (h : t.Invariant) (hp : p ≠ systemDatabase) (hq : q ≠ systemDatabase) :
    ((t.dropped p).dropped q).databases = t.databases.filter (fun db => db ≠ p ∧ db ≠ q) ∧
      ((t.dropped p).dropped q).series =
        t.series.filter (fun s => t.ownerOf? s.path ≠ some p ∧ t.ownerOf? s.path ≠ some q) := by
  have hboth := (h.dropped hp).dropped hq
  constructor
  · refine hboth.databasesAscending.ext (h.databasesAscending.filter _) fun db => ?_
    rw [mem_databases_dropped, mem_databases_dropped, List.mem_filter, decide_eq_true_eq, and_assoc]
  · refine hboth.seriesAscending.ext (h.seriesAscending.filter _) fun s => ?_
    rw [(h.dropped hp).mem_series_dropped, List.mem_filter, decide_eq_true_eq]
    constructor
    · rintro ⟨hs, ho⟩
      rw [h.ownerOf?_dropped hp hs] at ho
      obtain ⟨hs, ho'⟩ := h.mem_series_dropped.1 hs
      exact ⟨hs, ho', ho⟩
    · rintro ⟨hs, ho, ho'⟩
      have hs' := h.mem_series_dropped.2 ⟨hs, ho⟩
      exact ⟨hs', by rwa [h.ownerOf?_dropped hp hs']⟩

/-- What came in under a new database goes with it. -/
theorem Invariant.dropped_eq (ht : t.Invariant) (hu : u.Invariant) (hsys : p ≠ systemDatabase) (hnew : p ∉ t.databases)
    (hdb : ∀ db, db ∈ u.databases ↔ db = p ∨ db ∈ t.databases)
    (hs : ∀ s, s ∈ t.series ↔ s ∈ u.series ∧ p.isAncestorOf s.path = false) : u.dropped p = t := by
  have hp : p ∈ u.databases := (hdb p).2 (.inl rfl)
  refine (hu.dropped hsys).ext ht (fun db => ?_) fun s => ?_
  · rw [mem_databases_dropped, hdb]
    constructor
    · rintro ⟨rfl | hm, hne⟩
      · exact absurd rfl hne
      · exact hm
    · intro hm
      exact ⟨.inr hm, fun he => hnew (he ▸ hm)⟩
  · rw [hu.mem_series_dropped, hs, Ne, hu.ownerOf?_eq_some_iff, Bool.eq_false_iff]
    simp [hp]

/-! ## Creating below a new database -/

/-- No database lies on, above or below the path. -/
def Free (t : Tree) (p : Path) : Prop := ∀ db ∈ t.databases, overlaps db p = false

theorem Free.notMem (h : t.Free p) : p ∉ t.databases := by
  intro hp
  have hover : overlaps p p = true := overlaps_eq_true_iff.2 (.inl rfl)
  rw [h p hp] at hover
  cases hover

/-- A path of two nodes overlaps the databases that are equal to it or below it, and no others. -/
theorem Invariant.overlaps_iff (h : t.Invariant) (hlen : p.nodes.length = 2) {db : Path} (hdb : db ∈ t.databases) :
    overlaps db p = true ↔ db = p ∨ p.isAncestorOf db = true := by
  rw [overlaps_eq_true_iff]
  refine or_congr_right (or_iff_right fun habove => ?_)
  -- a database above the path would have a single node
  obtain ⟨ns, hne, hnodes⟩ := isAncestorOf_iff_nodes.1 habove
  have hpos := List.length_pos_iff.2 hne
  have htwo := (h.databasesStorable db hdb).2
  rw [hnodes, List.length_append] at hlen
  omega

/-- Where no database overlaps a path, no series lies below it. -/
theorem Invariant.apart_of_free (h : t.Invariant) (hfree : t.Free p) {s : Series}
    (hs : s ∈ t.series) : p.isAncestorOf s.path = false := by
  rw [Bool.eq_false_iff]
  intro hp
  obtain ⟨db, hdb, -, hanc⟩ := h.owned s hs
  have hover := overlaps_of_common hanc hp
  rw [hfree db hdb] at hover
  cases hover

/-- A path of two nodes is free if no database is equal to it or below it. -/
theorem Invariant.free_iff (h : t.Invariant) (hlen : p.nodes.length = 2) :
    t.Free p ↔ ∀ db ∈ t.databases, db ≠ p ∧ p.isAncestorOf db = false := by
  refine forall₂_congr fun db hdb => ?_
  rw [Bool.eq_false_iff, Ne, h.overlaps_iff hlen hdb, not_or, Bool.not_eq_true]

/-- A database that would overlap another is turned down. -/
theorem createDatabase_of_not_free (hstar : '*' ∉ p.text.toList) (hlen : 2 ≤ p.nodes.length) (hfree : ¬ t.Free p) :
    t.createDatabase p = .error (.databaseExists p) := by
  have hvalid : (p.hasStar || decide (p.nodes.length < 2)) = false := by
    rw [hasStar_eq_false_iff.2 hstar, decide_eq_false (not_lt.2 hlen)]
    rfl
  have hover : t.databases.any (overlaps · p) = true := by
    simpa [Free] using hfree
  unfold createDatabase
  rw [hvalid, if_neg Bool.false_ne_true, if_pos hover]

/-- A tree in which a database holds exactly these series, and beside it another tree. -/
structure Holding (t : Tree) (p : Path) (l : List Series) (u : Tree) : Prop where
  invariant : u.Invariant
  databases : ∀ db, db ∈ u.databases ↔ db = p ∨ db ∈ t.databases
  series : ∀ s, s ∈ u.series ↔ s ∈ l ∨ s ∈ t.series
  below : ∀ s ∈ l, p.isAncestorOf s.path = true

/-- A path is free beside a new database if it was free before and the database does not overlap it. -/
theorem Holding.free_iff {l : List Series} (h : Holding t p l u) : u.Free q ↔ overlaps p q = false ∧ t.Free q := by
  simp [Free, h.databases]

/-- Two databases that hold nothing may have come in one way or the other. -/
theorem Holding.comm {t' u' : Tree} (hp : Holding t p [] u) (hq : Holding u q [] u') (hother : Holding t q [] t') :
    Holding t' p [] u' := by
  refine ⟨hq.invariant, fun db => ?_, fun s => ?_, nofun⟩
  · rw [hq.databases, hp.databases, hother.databases, or_left_comm]
  · simp [hq.series, hp.series, hother.series]

/-- A new database holds nothing at first. -/
theorem Invariant.createDatabase_free (h : t.Invariant) (hp : p.Storable) (hlen : 2 ≤ p.nodes.length)
    (hfree : t.Free p) : ∃ u, t.createDatabase p = .ok u ∧ Holding t p [] u := by
  have hcreate : t.createDatabase p = .ok (t.withDatabase p) := createDatabase_eq_ok_iff.2 ⟨hp.noStar, hlen, hfree, rfl⟩
  exact ⟨_, hcreate, h.createDatabase hp.toRooted hp.noBlank hcreate, fun _ => h.mem_withDatabase hfree.notMem,
    fun s => by simp [withDatabase], nofun⟩

/-- A series that is apart from those that its database holds comes in; those of other databases are apart anyway. -/
theorem Holding.createSeries {l : List Series} (h : Holding t p l u) (ht : t.Invariant) (hsys : p ≠ systemDatabase)
    (hfree : t.Free p) {s : Series} (hs : s.path.Storable) (hbelow : p.isAncestorOf s.path = true)
    (hapart : ∀ r ∈ l, overlaps r.path s.path = false) :
    ∃ u', u.createSeries s.path s.info = .ok u' ∧ Holding t p (s :: l) u' := by
  have howner : u.ownerOf? s.path = some p := h.invariant.ownerOf?_eq_some_iff.2 ⟨(h.databases p).2 (.inl rfl), hbelow⟩
  have hall : ∀ r ∈ u.series, r.path ≠ s.path ∧
      r.path.isAncestorOf s.path = false ∧ s.path.isAncestorOf r.path = false := by
    intro r hr
    refine overlaps_eq_false_iff.1 ?_
    rcases (h.series r).1 hr with hr | hr
    · exact hapart r hr
    · have hout := ht.apart_of_free hfree hr
      refine Bool.eq_false_iff.2 fun hover => ?_
      rcases overlaps_eq_true_iff.1 hover with he | habove | habove
      · rw [he, hbelow] at hout
        cases hout
      · -- the owner of a series above this one would overlap the database
        obtain ⟨db, hdb, -, hanc⟩ := ht.owned r hr
        have hboth := overlaps_of_common (isAncestorOf_trans hanc habove) hbelow
        rw [hfree db hdb] at hboth
        cases hboth
      · rw [isAncestorOf_trans hbelow habove] at hout
        cases hout
  have hcreate : u.createSeries s.path s.info = .ok (u.withSeries s) :=
    createSeries_eq_ok_iff.2 ⟨⟨p, howner, hsys⟩, hall, rfl⟩
  refine ⟨_, hcreate, h.invariant.createSeries hs hcreate, h.databases, fun r => ?_,
    List.forall_mem_cons.2 ⟨hbelow, h.below⟩⟩
  rw [h.invariant.mem_withSeries fun r hr => (hall r hr).1, h.series, List.mem_cons, or_assoc]

/-- What is below the database is one of the series that it holds. -/
theorem Holding.exists_series_iff {l : List Series} (h : Holding t p l u) (ht : t.Invariant) (hfree : t.Free p)
    {P : Series → Prop} (hP : ∀ s, P s → p.isAncestorOf s.path = true) : (∃ s ∈ u.series, P s) ↔ ∃ s ∈ l, P s := by
  constructor
  · rintro ⟨s, hs, hp⟩
    rcases (h.series s).1 hs with hl | hout
    · exact ⟨s, hl, hp⟩
    · have habove := hP s hp
      rw [ht.apart_of_free hfree hout] at habove
      cases habove
  · rintro ⟨s, hs, hp⟩
    exact ⟨s, (h.series s).2 (.inl hs), hp⟩

/-- Dropping the database takes away all that it holds. -/
theorem Holding.dropped {l : List Series} (h : Holding t p l u) (ht : t.Invariant) (hsys : p ≠ systemDatabase)
    (hfree : t.Free p) : u.dropped p = t := by
  refine ht.dropped_eq h.invariant hsys hfree.notMem h.databases fun s => ?_
  rw [h.series]
  constructor
  · intro hs
    exact ⟨.inr hs, ht.apart_of_free hfree hs⟩
  · rintro ⟨hs | hs, hout⟩
    · rw [h.below s hs] at hout
      cases hout
    · exact hs

end SeriesCatalog.Tree
