/-
Names read off a listing, whatever the server has sent. Its header may lack the column, or have it twice
or in other letters; rows may be short, and cells may hold anything. The names come out in ascending
order, so all that matters is which texts stand in the column: neither the order of the rows shows nor
how often they occur.
-/
import SeriesCatalog.Dialect
import SeriesCatalog.Proofs.Ascending
import Mathlib.Tactic

namespace SeriesCatalog

open Text

/-! ## Columns -/

namespace Table

variable {rows : Table} {name text : String} {i : Nat}

/-- The column of this name stands at this place, the first one if several have the name in some case. If there is none,
the first cells of the rows take its place. -/
inductive StandsAt (rows : Table) (name : String) : Nat → Prop
  | named {i : Nat} (hi : i < rows.columns.length) (hname : sameLetters rows.columns[i] name = true)
      (hfirst : ∀ j (hj : j < i), ¬ sameLetters rows.columns[j] name = true) : StandsAt rows name i
  | unnamed (h : ∀ c ∈ rows.columns, sameLetters c name = false) : StandsAt rows name 0

/-- Some row has this text in the column. -/
def Shows (rows : Table) (name text : String) : Prop :=
  ∃ i, rows.StandsAt name i ∧ ∃ row ∈ rows.rows, cellText row[i]? = text

/-- There is just one such place. -/
theorem standsAt_iff : rows.StandsAt name i ↔ i = (rows.columnIndex? name).getD 0 := by
  cases hindex : rows.columnIndex? name with
  | none =>
    have hnone : ∀ c ∈ rows.columns, sameLetters c name = false := List.findIdx?_eq_none_iff.1 hindex
    constructor
    · rintro (⟨hi, hname, -⟩ | -)
      · rw [hnone _ (List.getElem_mem hi)] at hname
        cases hname
      · rfl
    · rintro rfl
      exact .unnamed hnone
  | some k =>
    obtain ⟨hk, hname, hfirst⟩ := List.findIdx?_eq_some_iff_getElem.1 hindex
    constructor
    · rintro (⟨hi, hname', hfirst'⟩ | hnone)
      · rcases Nat.lt_trichotomy i k with hlt | rfl | hlt
        · exact absurd hname' (hfirst i hlt)
        · rfl
        · exact absurd hname (hfirst' k hlt)
      · rw [hnone _ (List.getElem_mem hk)] at hname
        cases hname
    · rintro rfl
      exact .named hk hname hfirst

theorem mem_columnOrFirst_iff : text ∈ rows.columnOrFirst name ↔ rows.Shows name text := by
  have hcells : rows.columnOrFirst name = rows.cellsAt ((rows.columnIndex? name).getD 0) := by
    rw [columnOrFirst, column?, firstColumn]
    cases rows.columnIndex? name <;> rfl
  rw [hcells, cellsAt, List.mem_map]
  simp only [Shows, standsAt_iff, exists_eq_left]

/-- Only the header and which rows there are matter. -/
theorem shows_congr {rows' : Table} (hcolumns : rows'.columns = rows.columns)
    (hrows : ∀ row, row ∈ rows'.rows ↔ row ∈ rows.rows) : rows'.Shows name text ↔ rows.Shows name text := by
  simp only [Shows, standsAt_iff, columnIndex?, hcolumns, hrows]

end Table

namespace Dialect

variable {P Q : String → Prop} {names names' : List String} {rows rows' : Table} {schema n : String}

/-! ## Names -/

/-- The names of which something holds, in ascending order and none of them empty. -/
structure NamesOf (P : String → Prop) (names : List String) : Prop where
  ascending : Ascending.Holds id names
  nonempty : "" ∉ names
  mem_iff : ∀ n, n ∈ names ↔ n ≠ "" ∧ P n

/-- What holds of the names determines the list. -/
theorem NamesOf.eq (h : NamesOf P names) (h' : NamesOf Q names') (hPQ : ∀ n, P n ↔ Q n) : names = names' :=
  h.ascending.ext h'.ascending fun n => by rw [h.mem_iff, h'.mem_iff, hPQ]

theorem namesOf_texts {l : List String} (hmem : ∀ n, n ∈ l ↔ P n) :
    NamesOf P (Ascending.texts (l.filter (· ≠ ""))) where
  ascending := Ascending.holds_texts _
  nonempty := by simp [Ascending.mem_texts]
  mem_iff n := by rw [Ascending.mem_texts, List.mem_filter, hmem, decide_eq_true_eq, and_comm]

theorem namesOf_schemaNames (rows : Table) : NamesOf (rows.Shows "Database") (schemaNames rows) :=
  namesOf_texts fun _ => Table.mem_columnOrFirst_iff

theorem behind?_eq_some_iff {front s n : String} : behind? front s = some n ↔ s = front ++ n := by
  unfold behind?
  rw [Option.map_eq_some_iff]
  constructor
  · rintro ⟨rest, h, rfl⟩
    rw [List.isPrefixOf?_eq_some_iff_append_eq] at h
    exact String.toList_injective (by simp [h])
  · rintro rfl
    exact ⟨n.toList, by simp [List.isPrefixOf?_eq_some_iff_append_eq], by simp⟩

theorem namesOf_tableNames (schema : String) (rows : Table) :
    NamesOf (fun n => rows.Shows "Device" (schema ++ "." ++ n)) (tableNames schema rows) := by
  refine namesOf_texts fun n => ?_
  rw [List.mem_filterMap]
  simp only [behind?_eq_some_iff, exists_eq_right, Table.mem_columnOrFirst_iff]

/-- Every listing, whatever its header and its cells, gives the names that it shows: the schemas are the texts
of its databases, and the tables of a schema are what comes behind the name of the schema and a dot in the
texts of its devices. They come in ascending order, each once and none empty; a listing with the same rows in
another order or repeated gives the same names. -/
theorem names_of_listing (schema : String) (rows : Table) :
    NamesOf (rows.Shows "Database") (schemaNames rows) ∧
      NamesOf (fun n => rows.Shows "Device" (schema ++ "." ++ n)) (tableNames schema rows) ∧
      ∀ rows' : Table, rows'.columns = rows.columns → (∀ row, row ∈ rows'.rows ↔ row ∈ rows.rows) →
        schemaNames rows' = schemaNames rows ∧ tableNames schema rows' = tableNames schema rows := by
  refine ⟨namesOf_schemaNames rows, namesOf_tableNames schema rows, fun rows' hcolumns hrows => ⟨?_, ?_⟩⟩
  · exact (namesOf_schemaNames rows').eq (namesOf_schemaNames rows) fun _ => Table.shows_congr hcolumns hrows
  · exact (namesOf_tableNames schema rows').eq (namesOf_tableNames schema rows) fun _ =>
      Table.shows_congr hcolumns hrows

/-- A header that has the column twice in other letters and lacks the other one, rows of any length, and a device of
another schema, of no name and of several nodes; then the rows the other way round and once more. -/
theorem names_of_listing_ragged :
    let rows : Table :=
      { columns := ["Id", "dEVICE", "Device"]
        rows := [[.int 7, .string "root.a.d2", .string "root.a.x"], [.null], [.bool true, .string "root.a.d1.e"],
          [.string "", .string "root.a."], [.int 7, .string "root.ab.d"]] }
    let rows' : Table := { rows with rows := rows.rows.reverse ++ rows.rows }
    schemaNames rows = ["7", "true"] ∧ tableNames "root.a" rows = ["d1.e", "d2"] ∧
      (∀ row, row ∈ rows'.rows ↔ row ∈ rows.rows) ∧
      schemaNames rows' = schemaNames rows ∧ tableNames "root.a" rows' = tableNames "root.a" rows := by
  intro rows rows'
  have hrows : ∀ row, row ∈ rows'.rows ↔ row ∈ rows.rows := fun row => by simp [rows']
  obtain ⟨-, -, hsame⟩ := names_of_listing "root.a" rows
  exact ⟨by decide +kernel, by decide +kernel, hrows, hsame rows' rfl hrows⟩

end Dialect

end SeriesCatalog
