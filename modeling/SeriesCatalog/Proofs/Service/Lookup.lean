/-
Looking a table up and listing the tables of its schema. The two calls send different listings, one of the
series directly below the table and one of the devices below the schema, but either finds the table
because of a series directly below it. They differ in what they let through: a listing shows whatever name the
tree holds, while a name that is looked up has to be an identifier itself.
-/
import SeriesCatalog.Proofs.Engine.Catalog
import SeriesCatalog.Proofs.Service.Introspection

namespace SeriesCatalog.Service

open SeriesCatalog.Path Dialect

variable {config : Service} {e : Engine Tree} {t : Tree} {s table : String}

/-- The tables of the schema are listed, and this one is among them. -/
def Lists (e : Engine Tree) (t : Tree) (s table : String) : Prop :=
  ∃ names, ((e.tableNames s).on t).1 = .ok names ∧ table ∈ names

/-! ## Names that are no identifiers -/

theorem on_tableNames_of_not_isIdentifier (e : Engine Tree) (t : Tree) (hs : isIdentifier s = false) :
    (e.tableNames s).on t = (.error (.invalidIdentifier s), t) := by
  have hbuilt : ∀ sql, built [s] sql = .error (.invalidIdentifier s) := by simp [built, hs]
  rw [Engine.tableNames_eq_ask, hbuilt, Engine.ask_error, Call.on_throw]

/-- The first name that is no identifier is reported. -/
theorem built_of_not_isIdentifier (hid : ¬ (isIdentifier s = true ∧ isIdentifier table = true)) (sql : String) :
    built [s, table] sql = .error (.invalidIdentifier (if isIdentifier s then table else s)) := by
  cases hs : isIdentifier s with
  | false => simp [built, hs]
  | true =>
    have htable : isIdentifier table = false := by simpa [hs] using hid
    simp [built, hs, htable]

theorem on_columns_of_not_isIdentifier (e : Engine Tree) (t : Tree)
    (hid : ¬ (isIdentifier s = true ∧ isIdentifier table = true)) :
    (e.columns table s).on t = (.error (.invalidIdentifier (if isIdentifier s then table else s)), t) := by
  rw [Engine.columns_eq_ask, built_of_not_isIdentifier hid, Engine.ask_error, Call.on_throw]

theorem on_hasTable_of_not_isIdentifier (e : Engine Tree) (t : Tree)
    (hid : ¬ (isIdentifier s = true ∧ isIdentifier table = true)) :
    (e.hasTable table s).on t = (.error (.invalidIdentifier (if isIdentifier s then table else s)), t) := by
  rw [Engine.hasTable_eq_ask, built_of_not_isIdentifier hid, Engine.ask_error, Call.on_throw]

/-! ## When a table is found -/

theorem Serves.lists_iff (h : config.Serves e) (ht : t.Invariant) :
    Lists e t s table ↔
      isIdentifier s = true ∧ ∃ r ∈ t.series, r.path.parent? = some (Path.mk (s ++ "." ++ table)) := by
  unfold Lists
  cases hs : isIdentifier s with
  | false =>
    rw [on_tableNames_of_not_isIdentifier e t hs]
    simp
  | true =>
    rw [eq_self, true_and]
    by_cases hroot : (Path.mk s).Rooted
    · obtain ⟨names, hcall, -, hmem⟩ := h.tableNames_of_rooted ht hs hroot
      rw [hcall, ← hmem]
      simp
    · obtain ⟨message, sql, hcall⟩ := h.tableNames_of_not_rooted hs hroot t
      rw [hcall]
      refine iff_of_false (by simp) ?_
      rintro ⟨r, hr, hparent⟩
      exact hroot (rooted_append_iff.1 (rooted_of_parent ht hr hparent)).1

theorem Serves.hasTable_iff (h : config.Serves e) (ht : t.Invariant) :
    ((e.hasTable table s).on t).1 = .ok true ↔ isIdentifier s = true ∧ isIdentifier table = true ∧
      ∃ r ∈ t.series, r.path.parent? = some (Path.mk (s ++ "." ++ table)) := by
  by_cases hid : isIdentifier s = true ∧ isIdentifier table = true
  · obtain ⟨hs, htable⟩ := hid
    rw [Engine.hasTable, Call.on_read]
    by_cases hroot : (Path.mk (s ++ "." ++ table)).Rooted
    · obtain ⟨cols, hcall, -, hmem⟩ := h.columns_of_rooted ht hs htable hroot
      have hone : 1 < (Column.time :: cols).length ↔ ∃ c, c ∈ cols := by
        rw [List.length_cons, Nat.lt_add_left_iff_pos, List.length_pos_iff_exists_mem]
      have hfound : 1 < (Column.time :: cols).length ↔
          ∃ r ∈ t.series, r.path.parent? = some (Path.mk (s ++ "." ++ table)) := by
        simp only [hone, hmem, parent?_eq_some_mk_iff]
        constructor
        · rintro ⟨c, r, hr, hname, htext, -⟩
          exact ⟨r, hr, c.name, hname, htext⟩
        · rintro ⟨r, hr, m, hm, htext⟩
          exact ⟨storedColumn m r.info, r, hr, hm, htext, rfl⟩
      rw [hcall, ← hfound]
      simp [Except.map, hs, htable]
    · obtain ⟨message, sql, hcall⟩ := h.columns_of_not_rooted hs htable hroot t
      rw [hcall]
      refine iff_of_false (by simp [Except.map]) ?_
      rintro ⟨-, -, r, hr, hparent⟩
      exact hroot (rooted_of_parent ht hr hparent)
  · rw [on_hasTable_of_not_isIdentifier e t hid]
    exact iff_of_false (by simp) fun hfound => hid ⟨hfound.1, hfound.2.1⟩

/-- A table is found exactly if it is an identifier and is listed among the tables of its schema. A table that is listed
but is no identifier is refused by its name. -/
theorem hasTable_iff_lists (h : config.Serves e) (ht : t.Reachable) (s table : String) :
    (((e.hasTable table s).on t).1 = .ok true ↔ isIdentifier table = true ∧ Lists e t s table) ∧
      (Lists e t s table → isIdentifier table = false →
        (e.hasTable table s).on t = (.error (.invalidIdentifier table), t)) := by
  rw [h.hasTable_iff ht.invariant, h.lists_iff ht.invariant]
  refine ⟨and_left_comm, ?_⟩
  rintro ⟨hs, -⟩ htable
  rw [on_hasTable_of_not_isIdentifier e t (by simp [htable]), if_pos hs]

/-- A device inside another is found by the name that it is listed by, and a device with a quote in its name is not. -/
theorem hasTable_iff_lists_local :
    let t := Tree.initial.run ["create database root.a", "create timeseries root.a.d.e.x with datatype=INT32",
      "create timeseries root.a.d'e.x with datatype=INT32"]
    ((localEngine.hasTable "d.e" "root.a").on t).1 = .ok true ∧
      (localEngine.hasTable "d'e" "root.a").on t = (.error (.invalidIdentifier "d'e"), t) := by
  intro t
  have ht : t.Reachable := ⟨_, rfl⟩
  have hseries : t.series.map (·.path.parent?) = [some ⟨"root.a.d'e"⟩, some ⟨"root.a.d.e"⟩] := by rfl
  have hlists : ∀ table ∈ ["d'e", "d.e"], Lists localEngine t "root.a" table := by
    intro table htable
    have hmem : some (Path.mk ("root.a" ++ "." ++ table)) ∈ t.series.map (·.path.parent?) := by
      rw [hseries]
      revert table
      decide
    exact (serves_local.lists_iff ht.invariant).2 ⟨by decide, List.mem_map.1 hmem⟩
  exact ⟨(hasTable_iff_lists serves_local ht "root.a" "d.e").1.2 ⟨by decide, hlists _ (by decide)⟩,
    (hasTable_iff_lists serves_local ht "root.a" "d'e").2 (hlists _ (by decide)) (by decide)⟩

/-- A device with a quote in its name is listed, but looking it up is refused. -/
theorem listed_not_found :
    let t := Tree.initial.run ["create database root.a", "create timeseries root.a.d'e.x with datatype=INT32"]
    t.Reachable ∧ Lists localEngine t "root.a" "d'e" ∧
      (localEngine.hasTable "d'e" "root.a").on t = (.error (.invalidIdentifier "d'e"), t) := by
  intro t
  have ht : t.Reachable := ⟨_, rfl⟩
  have hseries : t.series.map (·.path.parent?) = [some ⟨"root.a.d'e"⟩] := by rfl
  have hmem : some (Path.mk ("root.a" ++ "." ++ "d'e")) ∈ t.series.map (·.path.parent?) := by
    rw [hseries]
    decide
  exact ⟨ht, (serves_local.lists_iff ht.invariant).2 ⟨by decide, List.mem_map.1 hmem⟩,
    on_hasTable_of_not_isIdentifier localEngine t (by decide)⟩

end SeriesCatalog.Service
