/-
A walk through the catalog: the schemas, the tables of each schema and the columns of each table. Over the
service it asks for names that the tree lists itself, so where all paths are identifiers no call of it is
refused, and it comes upon the columns of the tree: one for every series that lies in a table. A series
directly below its database is in no table, and the walk passes it by.
-/
import SeriesCatalog.Proofs.Dialect.Visits
import SeriesCatalog.Proofs.Service.Introspection

namespace SeriesCatalog

open SeriesCatalog.Path Dialect

/-! ## The walk -/

/-- Calls that leave the state alone may be made one after another. -/
theorem Call.on_flatMapM {σ α β : Type} {f : α → Call σ (List β)} {g : α → List β} {l : List α} {s : σ}
    (h : ∀ a ∈ l, (f a).on s = (.ok (g a), s)) : Call.on (l.flatMapM f) s = (.ok (l.flatMap g), s) := by
  induction l with
  | nil => rw [List.flatMapM_nil, Call.on_pure, List.flatMap_nil]
  | cons a l ih =>
    obtain ⟨ha, hl⟩ := List.forall_mem_cons.1 h
    rw [List.flatMapM_cons, Call.on_bind, ha]
    dsimp only
    rw [Call.on_bind, ih hl, List.flatMap_cons]
    rfl

namespace Engine

variable {σ : Type}

/-- The columns of a table but for that of instants. -/
def visitTable (e : Engine σ) (schema table : String) : Call σ (List Visit) :=
  (fun columns => (columns.filter (· ≠ .time)).map (Visit.mk schema table)) <$> e.columns table schema

/-- The columns of the tables of a schema. -/
def visitSchema (e : Engine σ) (schema : String) : Call σ (List Visit) := do
  (← e.tableNames schema).flatMapM (e.visitTable schema)

/-- The columns of the tables of all schemas. -/
def walk (e : Engine σ) : Call σ (List Visit) := do
  (← e.schemaNames).flatMapM e.visitSchema

end Engine

namespace Service

variable {config : Service} {e : Engine Tree} {t : Tree} {s table : String}

/-! ## The walk over the service -/

theorem Serves.on_visitTable (h : config.Serves e) (hs : isIdentifier s = true) (htable : isIdentifier table = true)
    (hroot : (Path.mk (s ++ "." ++ table)).Rooted) : (e.visitTable s table).on t = (.ok (t.visitsOf s table), t) := by
  have hblank := noBlank_append (noBlank_of_isIdentifier hs) (noBlank_of_isIdentifier htable)
  rw [Engine.visitTable, Call.on_map, h.on_columns hs htable, (queried_children hblank).1 hroot]
  rfl

/-- A table of a schema is rooted and an identifier because it is part of the path of a series. -/
theorem rooted_of_mem_tables (ht : t.Invariant) (hseries : ∀ r ∈ t.series, isIdentifier r.path.text = true)
    (hs : isIdentifier s = true) (htable : table ∈ t.tables s) :
    (Path.mk (s ++ "." ++ table)).Rooted ∧ isIdentifier table = true := by
  obtain ⟨r, hr, hparent⟩ := (ht.mem_tables_iff (star_notMem_of_isIdentifier hs)).1 htable
  obtain ⟨m, -, htext⟩ := parent?_eq_some_mk_iff.1 hparent
  have hroot := rooted_of_parent ht hr hparent
  refine ⟨hroot, isIdentifier_of_subset (hseries r hr) (rooted_append_iff.1 hroot).2 fun c hc => ?_⟩
  simp [htext, hc]

theorem Serves.on_visitSchema (h : config.Serves e) (ht : t.Invariant)
    (hseries : ∀ r ∈ t.series, isIdentifier r.path.text = true) (hs : isIdentifier s = true)
    (hroot : (Path.mk s).Rooted) :
    (e.visitSchema s).on t = (.ok ((t.tables s).flatMap (t.visitsOf s)), t) := by
  have htables : (e.tableNames s).on t = (.ok (t.tables s), t) := by
    rw [h.on_tableNames hs, (queried_below (noBlank_of_isIdentifier hs)).1 hroot]
    rfl
  rw [Engine.visitSchema, Call.on_bind, htables]
  refine Call.on_flatMapM fun table htable => ?_
  obtain ⟨hrooted, hid⟩ := rooted_of_mem_tables ht hseries hs htable
  exact h.on_visitTable hs hid hrooted

theorem Serves.on_walk (h : config.Serves e) (ht : t.Invariant)
    (hdatabases : ∀ db ∈ t.databases, isIdentifier db.text = true)
    (hseries : ∀ r ∈ t.series, isIdentifier r.path.text = true) : e.walk.on t = (.ok t.visits, t) := by
  rw [Engine.walk, Call.on_bind, h.on_schemaNames ht]
  refine Call.on_flatMapM fun s hs => ?_
  obtain ⟨db, hdb, rfl⟩ := List.mem_map.1 hs
  exact h.on_visitSchema ht hseries (hdatabases db hdb) (ht.databasesStorable db hdb).1.toRooted

/-- Where all stored paths are identifiers, a walk through the catalog meets no error and changes nothing. Of
the columns that it comes upon, one stands for each series in a table and none for a series directly below its
database, and there are as many as there are series in tables. -/
theorem walk_of_reachable (h : config.Serves e) (ht : t.Reachable)
    (hdatabases : ∀ db ∈ t.databases, isIdentifier db.text = true)
    (hseries : ∀ r ∈ t.series, isIdentifier r.path.text = true) :
    ∃ visits, e.walk.on t = (.ok visits, t) ∧
      (∀ r ∈ t.series, visits.countP (·.text = r.path.text) = if t.inTable r.path then 1 else 0) ∧
      visits.length = t.series.countP (t.inTable ·.path) :=
  ⟨t.visits, h.on_walk ht.invariant hdatabases hseries, fun _ hr => ht.invariant.countP_visits hr,
    ht.invariant.length_visits⟩

/-- Of these three series the first is directly below the database; the tables of the others nest. -/
theorem walk_local :
    let t := Tree.initial.run ["create database root.a", "create timeseries root.a.x with datatype=INT32",
      "create timeseries root.a.d.x with datatype=INT32", "create timeseries root.a.d.e.Time with datatype=TEXT"]
    ∃ visits, localEngine.walk.on t = (.ok visits, t) ∧ visits.length = 2 := by
  intro t
  have hdatabases : t.databases.all (isIdentifier ·.text) = true := by rfl
  have hseries : t.series.all (isIdentifier ·.path.text) = true := by rfl
  obtain ⟨visits, hwalk, -, hlength⟩ :=
    walk_of_reachable serves_local ⟨_, rfl⟩ (List.all_eq_true.1 hdatabases) (List.all_eq_true.1 hseries)
  exact ⟨visits, hwalk, hlength⟩

/-- The series directly below its database is stored, but the walk comes upon no column at all. -/
theorem not_covered_local :
    let t := Tree.initial.run ["create database root.a", "create timeseries root.a.x with datatype=INT32"]
    t.Reachable ∧ (∀ db ∈ t.databases, isIdentifier db.text = true) ∧
      (∀ r ∈ t.series, isIdentifier r.path.text = true) ∧
      t.series.length = 1 ∧ localEngine.walk.on t = (.ok [], t) := by
  intro t
  have hdatabases : t.databases.all (isIdentifier ·.text) = true := by rfl
  have hseries : t.series.all (isIdentifier ·.path.text) = true := by rfl
  have ht : t.Reachable := ⟨_, rfl⟩
  have hwalk := serves_local.on_walk ht.invariant (List.all_eq_true.1 hdatabases) (List.all_eq_true.1 hseries)
  exact ⟨ht, List.all_eq_true.1 hdatabases, List.all_eq_true.1 hseries, rfl, hwalk⟩

end Service

end SeriesCatalog
