/-
What setup makes of a tree, and that teardown takes it away again. Setup stops at the first database
that overlaps one of the tree; once both databases are there, nothing can turn the series down,
because whatever else is stored lies apart from them. So setup leaves the tree as it was, or with one
empty database more, or with everything; deleting both databases leads from each of these trees to
the one without those of the two that were there before.
-/
import SeriesCatalog.Proofs.Scenario.Protocol
import SeriesCatalog.Proofs.Service.Connected
import SeriesCatalog.Proofs.Tree.Edit

namespace SeriesCatalog.Scenario

open SeriesCatalog.Path SeriesCatalog.Tree Service

variable {config : Service} {e : Engine Tree} {t u : Tree} {p : Path}

/-! ## Fixture -/

/-- The database with the devices. -/
def fixture : Path := ⟨fixtureSchema⟩

/-- The database that stays empty. -/
def second : Path := ⟨secondSchema⟩

/-- The series that a device of the fixture measures. -/
def measured (device name : String) : Series :=
  ⟨⟨fixtureSchema ++ "." ++ device ++ "." ++ name⟩, ⟨.float, "RLE", SeriesInfo.defaultCompression⟩⟩

/-- The statements that create the series, and what they create. -/
def creations : List (String × Series) :=
  [("create timeseries root.cursor.device1.temperature with datatype=FLOAT,encoding=RLE",
    measured "device1" "temperature"),
    ("create timeseries root.cursor.device1.status with datatype=FLOAT,encoding=RLE", measured "device1" "status"),
    ("create timeseries root.cursor.device2.temperature with datatype=FLOAT,encoding=RLE",
      measured "device2" "temperature")]

theorem setupStatements_eq :
    setupStatements = "create database root.cursor" :: "create database root.cursor_s1" :: creations.map Prod.fst := rfl

theorem parse_createFixture : Statement.parse "create database root.cursor" = .ok (.createDatabase fixture) := by
  decide +kernel

theorem parse_createSecond : Statement.parse "create database root.cursor_s1" = .ok (.createDatabase second) := by
  decide +kernel

theorem parse_deleteFixture : Statement.parse "delete database root.cursor" = .ok (.deleteDatabases [fixture]) := by
  decide +kernel

theorem parse_deleteSecond : Statement.parse "delete database root.cursor_s1" = .ok (.deleteDatabases [second]) := by
  decide +kernel

theorem parse_creations : ∀ x ∈ creations, Statement.parse x.1 = .ok (.createSeries x.2.path x.2.info) := by
  decide +kernel

theorem fixture_ne_systemDatabase : fixture ≠ systemDatabase := by decide

theorem second_ne_systemDatabase : second ≠ systemDatabase := by decide

theorem length_nodes_fixture : fixture.nodes.length = 2 := by decide

theorem length_nodes_second : second.nodes.length = 2 := by decide

/-- What a text that creates a database names can be stored. -/
theorem storable_of_parse {sql : String} (hparse : Statement.parse sql = .ok (.createDatabase p))
    (hstar : '*' ∉ p.text.toList) : p.Storable := by
  obtain ⟨hrooted, hblank⟩ : p.Rooted ∧ ∀ c ∈ p.text.toList, Text.isBlank c = false :=
    Statement.createsSoundly_of_parse hparse
  exact ⟨hrooted, hblank, hstar⟩

/-! ## Statements one by one -/

/-- A statement that changes the tree, run by the engine: the change is made or turned down. -/
theorem on_execute_settled (h : config.Serves e) {sql : String} {st : Statement} {r : Except Rejection Tree}
    (hparse : Statement.parse sql = .ok st) (happly : t.apply st = t.settle r) :
    (∀ u, r = .ok u → (e.execute sql).on t = (.ok (), u)) ∧
      ∀ reason, r = .error reason → (e.execute sql).on t = (.error (reason.reported sql), t) := by
  have hexecute : t.execute sql = t.settle r := by rw [execute_of_parse_ok hparse, happly]
  rw [h.on_execute]
  constructor
  · rintro u rfl
    have hdone : t.executed sql = .ok () := executed_eq_ok_iff.2 (by rw [hexecute]; rfl)
    rw [hdone, hexecute]
    rfl
  · rintro reason rfl
    have herror : t.executed sql = .error reason := executed_of_error (by rw [hexecute]; rfl)
    rw [herror, hexecute]
    rfl

/-- Series that lie apart come in one after another. -/
theorem on_creations (h : config.Serves e) (ht : t.Invariant) (hsys : p ≠ systemDatabase) (hfree : t.Free p)
    {l : List (String × Series)} {held : List Series} (hu : Holding t p held u)
    (hparse : ∀ x ∈ l, Statement.parse x.1 = .ok (.createSeries x.2.path x.2.info))
    (hbelow : ∀ x ∈ l, p.isAncestorOf x.2.path = true)
    (hapart : (held.reverse ++ l.map Prod.snd).Pairwise fun r s => overlaps r.path s.path = false) :
    ∃ u', Call.on ((l.map Prod.fst).forM e.execute) u = (.ok (), u') ∧
      Holding t p ((l.map Prod.snd).reverse ++ held) u' := by
  induction l generalizing held u with
  | nil => exact ⟨u, rfl, hu⟩
  | cons x l ih =>
    have hstorable : x.2.path.Storable := Statement.createsSoundly_of_parse (hparse x (.head _))
    have hheld : ∀ r ∈ held, overlaps r.path x.2.path = false := by
      intro r hr
      exact (List.pairwise_append.1 hapart).2.2 r (List.mem_reverse.2 hr) x.2 (.head _)
    obtain ⟨u', hcreate, hu'⟩ := hu.createSeries ht hsys hfree hstorable (hbelow x (.head _)) hheld
    have hstep : (e.execute x.1).on u = (.ok (), u') :=
      (on_execute_settled h (hparse x (.head _)) rfl).1 u' hcreate
    obtain ⟨u'', hrest, hu''⟩ := ih hu' (fun y hy => hparse y (.tail _ hy)) (fun y hy => hbelow y (.tail _ hy))
      (by simpa using hapart)
    refine ⟨u'', ?_, by simpa using hu''⟩
    rw [List.map_cons, Call.on_forM_cons, hstep]
    exact hrest

/-! ## Setup and teardown -/

/-- What setup may leave behind: the tree itself, where the first database overlaps another; one more database that
holds nothing, where only the second does; both databases and all series, where neither does. -/
inductive SetUp (t : Tree) : Except CatalogError Unit → Tree → Prop
  | nothing (error : CatalogError) (hfixture : ¬ t.Free fixture) : SetUp t (.error error) t
  | first {u : Tree} (error : CatalogError) (hfixture : t.Free fixture) (hsecond : ¬ t.Free second)
      (hu : Holding t fixture [] u) : SetUp t (.error error) u
  | everything {t' u : Tree} (hfixture : t.Free fixture) (hsecond : t.Free second) (ht' : Holding t second [] t')
      (hu : Holding t' fixture (creations.map Prod.snd).reverse u) : SetUp t (.ok ()) u

theorem overlaps_second_fixture : overlaps second fixture = false := by decide

theorem overlaps_fixture_second : overlaps fixture second = false := by decide

/-- Setup stops only at a database that overlaps one of the tree. -/
theorem setup_spec (h : config.Serves e) (ht : t.Invariant) :
    ∃ r u, Call.on (setupStatements.forM e.execute) t = (r, u) ∧ SetUp t r u := by
  have hstorable := storable_of_parse parse_createFixture (by decide)
  have hstorable' := storable_of_parse parse_createSecond (by decide)
  have hfirst := on_execute_settled h (t := t) parse_createFixture rfl
  rw [setupStatements_eq, Call.on_forM_cons]
  by_cases hfixture : t.Free fixture
  · obtain ⟨u, hcreate, hu⟩ := ht.createDatabase_free hstorable length_nodes_fixture.ge hfixture
    have hnext := on_execute_settled h (t := u) parse_createSecond rfl
    rw [hfirst.1 u hcreate]
    dsimp only
    rw [Call.on_forM_cons]
    by_cases hsecond : t.Free second
    · obtain ⟨t', -, ht'⟩ := ht.createDatabase_free hstorable' length_nodes_second.ge hsecond
      obtain ⟨v, hcreate', hv⟩ := hu.invariant.createDatabase_free hstorable' length_nodes_second.ge
        (hu.free_iff.2 ⟨overlaps_fixture_second, hsecond⟩)
      -- seen from the tree that has only the second database, everything comes in under the first
      obtain ⟨w, hseries, hw⟩ := on_creations h ht'.invariant fixture_ne_systemDatabase
        (ht'.free_iff.2 ⟨overlaps_second_fixture, hfixture⟩) (hu.comm hv ht') parse_creations (by decide) (by decide)
      refine ⟨.ok (), w, ?_, .everything hfixture hsecond ht' (by simpa using hw)⟩
      rw [hnext.1 v hcreate']
      exact hseries
    · have hturned : u.createDatabase second = .error (.databaseExists second) :=
        createDatabase_of_not_free hstorable'.noStar length_nodes_second.ge fun hfree => hsecond (hu.free_iff.1 hfree).2
      exact ⟨_, u, by rw [hnext.2 _ hturned], .first _ hfixture hsecond hu⟩
  · -- the first statement is turned down already
    have hturned : t.createDatabase fixture = .error (.databaseExists fixture) :=
      createDatabase_of_not_free hstorable.noStar length_nodes_fixture.ge hfixture
    exact ⟨_, t, by rw [hfirst.2 _ hturned], .nothing _ hfixture⟩

/-- Teardown drops both databases. -/
theorem run_teardown_of_serves (h : config.Serves e) (u : Tree) :
    ((teardown e).run u).2 = (u.dropped fixture).dropped second := by
  have hfirst : ((e.execute "delete database root.cursor").on u).2 = u.dropped fixture := by
    rw [h.on_execute]
    dsimp only
    rw [execute_of_parse_ok parse_deleteFixture]
    exact apply_deleteDatabases (by decide) fixture_ne_systemDatabase
  rw [run_teardown, hfirst, h.on_execute]
  dsimp only
  rw [execute_of_parse_ok parse_deleteSecond, apply_deleteDatabases (by decide) second_ne_systemDatabase]

/-- Whatever setup left behind, dropping both databases leads to the tree without those of them that it held. -/
theorem SetUp.dropped {r : Except CatalogError Unit} (h : SetUp t r u) (ht : t.Invariant) :
    (u.dropped fixture).dropped second = (t.dropped fixture).dropped second := by
  cases h with
  | nothing error hfixture => rfl
  | first error hfixture hsecond hu =>
    rw [hu.dropped ht fixture_ne_systemDatabase hfixture, dropped_of_notMem hfixture.notMem]
  | everything hfixture hsecond ht' hu =>
    have hfree := ht'.free_iff.2 ⟨overlaps_second_fixture, hfixture⟩
    rw [hu.dropped ht'.invariant fixture_ne_systemDatabase hfree, ht'.dropped ht second_ne_systemDatabase hsecond,
      dropped_of_notMem hfixture.notMem, dropped_of_notMem hsecond.notMem]

end SeriesCatalog.Scenario
