/-
The scenario leaves no trace. Over an engine that is connected to the service it ends with the tree
that it started from, without those of its two databases that were there before and what they owned.
It succeeds exactly where neither database overlaps one of the tree; then all its checks pass, since
what the catalog calls tell about the fixture depends on nothing else that is stored. Where setup
stops, only the check that nothing is left passes.
-/
import SeriesCatalog.Proofs.Scenario.Setup
import SeriesCatalog.Proofs.Service.Introspection

namespace SeriesCatalog.Scenario

open SeriesCatalog.Path SeriesCatalog.Tree Service Dialect

variable {config : Service} {e : Engine Tree} {t t' u : Tree}

/-! ## What is told about the fixture -/

/-- The path of a series of the fixture tells its device and its last node. -/
theorem text_measured_iff {device name d n : String} (hname : '.' ∉ name.toList) :
    '.' ∉ n.toList ∧ (measured device name).path.text = fixtureSchema ++ "." ++ d ++ "." ++ n ↔
      device = d ∧ name = n := by
  have hparent {x y : String} (hy : '.' ∉ y.toList) :
      (Path.mk (fixtureSchema ++ "." ++ x ++ "." ++ y)).parent? = some ⟨fixtureSchema ++ "." ++ x⟩ :=
    parent?_eq_some_mk_iff.2 ⟨y, hy, rfl⟩
  constructor
  · rintro ⟨hn, h⟩
    have hpath : Path.mk (fixtureSchema ++ "." ++ device ++ "." ++ name) = ⟨fixtureSchema ++ "." ++ d ++ "." ++ n⟩ :=
      ext_text h
    have hdevice := hparent (x := device) hname
    rw [hpath, hparent hn, Option.some_inj, Path.mk.injEq, String.append_right_inj] at hdevice
    subst hdevice
    exact ⟨rfl, (String.append_right_inj _).1 h⟩
  · rintro ⟨rfl, rfl⟩
    exact ⟨hname, rfl⟩

theorem parent?_measured_iff {device name d : String} (hname : '.' ∉ name.toList) :
    (measured device name).path.parent? = some ⟨fixtureSchema ++ "." ++ d⟩ ↔ device = d := by
  rw [parent?_eq_some_mk_iff]
  constructor
  · rintro ⟨n, hn, h⟩
    exact ((text_measured_iff hname).1 ⟨hn, h⟩).1
  · rintro rfl
    exact ⟨name, hname, rfl⟩

/-- What lies below a part of the fixture lies below the fixture. -/
theorem isAncestorOf_of_text {s : Series} {d n : String} (h : s.path.text = fixtureSchema ++ "." ++ d ++ "." ++ n) :
    fixture.isAncestorOf s.path = true := by
  refine isAncestorOf_iff.2 ⟨d ++ "." ++ n, ?_⟩
  simp only [h, fixture, String.append_assoc]

theorem exists_mem_creations_iff {P : Series → Prop} :
    (∃ s ∈ (creations.map Prod.snd).reverse, P s) ↔
      P (measured "device2" "temperature") ∨ P (measured "device1" "status") ∨
        P (measured "device1" "temperature") := by
  simp [creations]

theorem rooted_fixture : (Path.mk fixtureSchema).Rooted :=
  (storable_of_parse parse_createFixture (by decide)).toRooted

section

variable (h : config.Serves e) (ht' : t'.Invariant) (hfree : t'.Free fixture)
  (hu : Holding t' fixture (creations.map Prod.snd).reverse u)

include h ht' hfree hu

/-- The tables of the fixture are its devices, whatever else is stored. -/
theorem on_tableNames_fixture : (e.tableNames fixtureSchema).on u = (.ok ["device1", "device2"], u) := by
  obtain ⟨names, hcall, hascending, hmem⟩ := h.tableNames_of_rooted hu.invariant (by decide) rooted_fixture
  have hexpected : Ascending.Holds id ["device1", "device2"] := by
    unfold Ascending.Holds
    decide
  have hnames : names = ["device1", "device2"] := by
    refine hascending.ext hexpected fun n => ?_
    have hbelow : ∀ s : Series, s.path.parent? = some ⟨fixtureSchema ++ "." ++ n⟩ →
        fixture.isAncestorOf s.path = true := by
      intro s hs
      obtain ⟨m, -, htext⟩ := parent?_eq_some_mk_iff.1 hs
      exact isAncestorOf_of_text htext
    rw [hmem, hu.exists_series_iff ht' hfree hbelow, exists_mem_creations_iff]
    rw [parent?_measured_iff (by decide), parent?_measured_iff (by decide), parent?_measured_iff (by decide)]
    simp [eq_comm, or_comm]
  rw [hcall, hnames]

/-- The first device has two columns beside that of instants, whatever else is stored. -/
theorem on_columns_fixture :
    ∃ cols, (e.columns "device1" fixtureSchema).on u = (.ok cols, u) ∧
      cols.map Column.name = ["Time", "status", "temperature"] := by
  obtain ⟨cols, hcall, hascending, hmem⟩ := h.columns_of_rooted hu.invariant (by decide) (by decide)
    (rooted_append_iff.2 ⟨rooted_fixture, (by decide : "" ∉ (Path.mk "device1").nodes)⟩)
  have hexpected : Ascending.Holds id ["status", "temperature"] := by
    unfold Ascending.Holds
    decide
  have hname : ∀ n, n ∈ cols.map Column.name ↔
      ∃ s ∈ u.series, '.' ∉ n.toList ∧ s.path.text = fixtureSchema ++ "." ++ "device1" ++ "." ++ n := by
    intro n
    constructor
    · intro hn
      obtain ⟨c, hc, rfl⟩ := List.mem_map.1 hn
      obtain ⟨s, hs, hdot, htext, -⟩ := (hmem c).1 hc
      exact ⟨s, hs, hdot, htext⟩
    · rintro ⟨s, hs, hdot, htext⟩
      exact List.mem_map.2 ⟨storedColumn n s.info, (hmem _).2 ⟨s, hs, hdot, htext, rfl⟩, rfl⟩
  have hnames : cols.map Column.name = ["status", "temperature"] := by
    refine (Ascending.holds_map.2 hascending : Ascending.Holds id _).ext hexpected fun n => ?_
    have hbelow : ∀ s : Series, '.' ∉ n.toList ∧ s.path.text = fixtureSchema ++ "." ++ "device1" ++ "." ++ n →
        fixture.isAncestorOf s.path = true := by
      rintro s ⟨-, htext⟩
      exact isAncestorOf_of_text htext
    rw [hname, hu.exists_series_iff ht' hfree hbelow, exists_mem_creations_iff]
    rw [text_measured_iff (by decide), text_measured_iff (by decide), text_measured_iff (by decide)]
    simp [eq_comm]
  exact ⟨_, hcall, by rw [List.map_cons, hnames]; rfl⟩

end

/-! ## Checks -/

theorem passed_judgeSchemas {names : List String}
    (h : ∀ name ∈ [systemDatabase.text, fixtureSchema, secondSchema], name ∈ names) :
    (judgeSchemas (.ok names)).passed = true := by
  have hmissing : [systemDatabase.text, fixtureSchema, secondSchema].filter (!names.contains ·) = [] := by
    refine List.filter_eq_nil_iff.2 fun name hname => ?_
    simp [h name hname]
  unfold judgeSchemas
  dsimp only
  rw [if_pos hmissing]
  rfl

theorem judgeCleanup_eq_pass {names : List String} (hfixture : fixtureSchema ∉ names) (hsecond : secondSchema ∉ names) :
    judgeCleanup (.ok names) = .pass cleanupCheck (Quoted.list names) := by
  unfold judgeCleanup
  dsimp only
  rw [if_pos (filter_left_eq_nil_iff.2 ⟨hfixture, hsecond⟩)]

/-- All checks pass where both databases and all series are there. -/
theorem run_inspect_of_holding (h : config.Serves e) (hfixture : t.Free fixture) (ht' : Holding t second [] t')
    (hu : Holding t' fixture (creations.map Prod.snd).reverse u) :
    ∃ listings, (inspect e).run u = (listings, u) ∧ ∀ o ∈ listings.outcomes, o.passed = true := by
  have hfree : t'.Free fixture := ht'.free_iff.2 ⟨overlaps_second_fixture, hfixture⟩
  obtain ⟨cols, hcolumns, hnames⟩ := on_columns_fixture h ht'.invariant hfree hu
  have hlength : cols.length = 3 := by
    rw [← List.length_map Column.name, hnames]
    rfl
  have hschemas : ∀ name ∈ [systemDatabase.text, fixtureSchema, secondSchema], name ∈ u.databases.map Path.text := by
    have hsecond : second ∈ u.databases := (hu.databases _).2 (.inr ((ht'.databases _).2 (.inl rfl)))
    have hfirst : fixture ∈ u.databases := (hu.databases _).2 (.inl rfl)
    exact List.forall_mem_cons.2 ⟨List.mem_map_of_mem hu.invariant.system,
      List.forall_mem_cons.2 ⟨List.mem_map_of_mem hfirst, List.forall_mem_singleton.2 (List.mem_map_of_mem hsecond)⟩⟩
  refine ⟨⟨.ok (u.databases.map Path.text), .ok ["device1", "device2"], .ok cols⟩, ?_, ?_⟩
  · rw [run_inspect, h.on_schemaNames hu.invariant]
    dsimp only
    rw [on_tableNames_fixture h ht'.invariant hfree hu]
    dsimp only
    rw [hcolumns]
  · have htables : (judgeTables (.ok ["device1", "device2"])).passed = true := by decide +kernel
    have hcount : (judgeColumns (.ok cols)).passed = true := by
      rw [judgeColumns, if_pos hlength]
      rfl
    exact List.forall_mem_cons.2 ⟨passed_judgeSchemas hschemas,
      List.forall_mem_cons.2 ⟨htables, List.forall_mem_singleton.2 hcount⟩⟩

/-- Nothing is left where both databases are dropped. -/
theorem on_schemaNames_dropped (h : config.Serves e) (ht : t.Invariant) :
    ∃ names, e.schemaNames.on ((t.dropped fixture).dropped second) = (.ok names, (t.dropped fixture).dropped second) ∧
      judgeCleanup (.ok names) = .pass cleanupCheck (Quoted.list names) := by
  have hinvariant := (ht.dropped fixture_ne_systemDatabase).dropped second_ne_systemDatabase
  -- the names are those of the databases that are left
  refine ⟨_, h.on_schemaNames hinvariant, judgeCleanup_eq_pass ?_ ?_⟩
  · intro hm
    obtain ⟨db, hdb, he⟩ := List.mem_map.1 hm
    exact (mem_databases_dropped.1 (mem_databases_dropped.1 hdb).1).2 (ext_text he)
  · intro hm
    obtain ⟨db, hdb, he⟩ := List.mem_map.1 hm
    exact (mem_databases_dropped.1 hdb).2 (ext_text he)

/-! ## The run -/

/-- Either neither database overlaps one of the tree and every check passes, or setup stopped and the checks between
setup and teardown were skipped. The last check passes, and the databases are gone. -/
theorem run_spec (h : config.Serves e) (ht : t.Invariant) :
    ∃ outcomes listed, (run e).run t =
        ((⟨outcomes ++ [.pass cleanupCheck listed]⟩, e.dispose), (t.dropped fixture).dropped second) ∧
      ((t.Free fixture ∧ t.Free second) ∧ outcomes.length = 3 ∧ (∀ o ∈ outcomes, o.passed = true) ∨
        ¬ (t.Free fixture ∧ t.Free second) ∧ ∃ error, outcomes = skipped error) := by
  obtain ⟨r, u, hsetup, hspec⟩ := setup_spec h ht
  have hdropped := hspec.dropped ht
  obtain ⟨names, hleft, hcleanup⟩ := on_schemaNames_dropped h ht
  have stopped : ∀ error, r = .error error →
      (run e).run t = ((⟨skipped error ++ [.pass cleanupCheck (Quoted.list names)]⟩, e.dispose),
        (t.dropped fixture).dropped second) := by
    rintro error rfl
    rw [run_of_setup_error hsetup, ending, run_teardown_of_serves h, hdropped, hleft, ← hcleanup]
  -- by what setup left behind
  cases hspec with
  | nothing error hfixture =>
    exact ⟨_, _, stopped error rfl, .inr ⟨fun hclear => hfixture hclear.1, error, rfl⟩⟩
  | first error hfixture hsecond hu =>
    exact ⟨_, _, stopped error rfl, .inr ⟨fun hclear => hsecond hclear.2, error, rfl⟩⟩
  | everything hfixture hsecond ht' hu =>
    obtain ⟨listings, hinspect, hpassed⟩ := run_inspect_of_holding h hfixture ht' hu
    refine ⟨listings.outcomes, Quoted.list names, ?_, .inl ⟨⟨hfixture, hsecond⟩, rfl, hpassed⟩⟩
    rw [run_of_setup_ok hsetup, hinspect, ending, run_teardown_of_serves h, hdropped, hleft, ← hcleanup]

/-- No database is equal to one of the scenario's or below it. -/
def Clear (t : Tree) : Prop :=
  ∀ db ∈ t.databases, (db ≠ fixture ∧ fixture.isAncestorOf db = false) ∧ (db ≠ second ∧ second.isAncestorOf db = false)

theorem clear_iff (ht : t.Invariant) : Clear t ↔ t.Free fixture ∧ t.Free second := by
  rw [ht.free_iff length_nodes_fixture, ht.free_iff length_nodes_second, ← forall₂_and]
  rfl

theorem isSuccess_iff {r : Report} : r.isSuccess = true ↔ ∀ o ∈ r.outcomes, o.passed = true := by
  unfold Report.isSuccess Report.failedCount Report.failures
  rw [beq_iff_eq, List.length_eq_zero_iff, List.filter_eq_nil_iff]
  simp

theorem passed_concat {outcomes : List Report.Outcome} (h : ∀ o ∈ outcomes, o.passed = true) (check actual : String) :
    ∀ o ∈ outcomes ++ [.pass check actual], o.passed = true := by
  intro o ho
  rcases List.mem_append.1 ho with ho | ho
  · exact h o ho
  · exact List.mem_singleton.1 ho ▸ rfl

/-- What a run of the scenario comes to: the tree without those of the two databases that were there and what they
owned, and a report of it. -/
structure Restored (t : Tree) (report : Report) (after : Tree) : Prop where
  databases : after.databases = t.databases.filter fun db => db ≠ fixture ∧ db ≠ second
  series : after.series =
    t.series.filter fun s => t.ownerOf? s.path ≠ some fixture ∧ t.ownerOf? s.path ≠ some second
  success : report.isSuccess = true ↔ Clear t
  clear : Clear t → after = t ∧ report.outcomes.length = 4 ∧ ∀ o ∈ report.outcomes, o.passed = true
  taken : ¬ Clear t → report.outcomes.length = 5 ∧ report.failedCount = 4
  cleanup : ∃ o, report.outcomes.getLast? = some o ∧ o.name = cleanupCheck ∧ o.passed = true

/-- Over an engine that is connected to the service the scenario takes away what it brought in, whether or not setup
stopped midway, and succeeds exactly on the trees that are clear of its databases. -/
theorem restored_of_reachable (h : config.Serves e) (ht : t.Reachable) :
    Restored t ((run e).run t).1.1 ((run e).run t).2 := by
  have hinv := ht.invariant
  obtain ⟨hdatabases, hseries⟩ := hinv.dropped_dropped fixture_ne_systemDatabase second_ne_systemDatabase
  obtain ⟨outcomes, listed, hrun, hcases⟩ := run_spec h hinv
  rw [← clear_iff hinv] at hcases
  rw [hrun]
  have hcleanup : ∃ o, (outcomes ++ [Report.Outcome.pass cleanupCheck listed]).getLast? = some o ∧
      o.name = cleanupCheck ∧ o.passed = true :=
    ⟨_, List.getLast?_concat, rfl, rfl⟩
  rcases hcases with ⟨hclear, hlength, hpassed⟩ | ⟨htaken, error, rfl⟩
  · have hall := passed_concat hpassed cleanupCheck listed
    have hsame : (t.dropped fixture).dropped second = t := by
      obtain ⟨hfixture, hsecond⟩ := (clear_iff hinv).1 hclear
      rw [dropped_of_notMem hfixture.notMem, dropped_of_notMem hsecond.notMem]
    refine ⟨hdatabases, hseries, iff_of_true (isSuccess_iff.2 hall) hclear, fun _ => ⟨hsame, ?_, hall⟩,
      fun htaken => absurd hclear htaken, hcleanup⟩
    rw [List.length_append, hlength]
    rfl
  · refine ⟨hdatabases, hseries, iff_of_false ?_ htaken, fun hclear => absurd hclear htaken, fun _ => ⟨rfl, rfl⟩,
      hcleanup⟩
    exact fun hsuccess => Bool.false_ne_true (isSuccess_iff.1 hsuccess _ (.head _))

/-- A tree that holds the second database and a series in it, so that setup stops midway. -/
theorem restored_local :
    let t := Tree.initial.run ["create database root.cursor_s1",
      "create timeseries root.cursor_s1.device1.status with datatype=INT32"]
    Serves {} localEngine ∧ t.Reachable ∧ Restored t ((run localEngine).run t).1.1 ((run localEngine).run t).2 := by
  intro t
  exact ⟨serves_local, ⟨_, rfl⟩, restored_of_reachable serves_local ⟨_, rfl⟩⟩

end SeriesCatalog.Scenario
