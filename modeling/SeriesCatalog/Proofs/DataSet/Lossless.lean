/-
Nothing is lost between rows and columns. A table that is sent column by column comes back with its
rows cut or filled up to the header. A data set whose names are as many as its columns holds, row by
row, every one of its columns again: each filled up to the longest, in its place, behind the instants
if there are any.
-/
import SeriesCatalog.Proofs.DataSet.Transpose

namespace SeriesCatalog.DataSet

variable {d : DataSet}

/-! ## Columns of rows -/

/-- A column filled up with null to a length. -/
def padded (n : Nat) (column : List Json) : List Json := column ++ List.replicate (n - column.length) .null

theorem fittedRow_eq_padded {n : Nat} {column : List Json} (h : column.length ≤ n) :
    Table.fittedRow n column = padded n column := by
  rw [Table.fittedRow, List.take_of_length_le h, padded]

theorem length_cells_le (d : DataSet) : ∀ column ∈ d.cells, column.length ≤ d.rowCount := by
  obtain ⟨hinstants, hvalues⟩ := rowCount_le_iff.1 (le_refl d.rowCount)
  unfold cells
  split
  · exact hvalues
  · exact List.forall_mem_cons.2 ⟨by rwa [List.length_map], hvalues⟩

theorem length_header (h : d.names.length = d.values.length) : d.header.length = d.cells.length := by
  unfold header cells
  split
  · exact h
  · rw [List.length_cons, List.length_cons, h]

/-- The columns of the rows are the columns of the data set, each filled up to the longest. -/
theorem columnMajor_toTable (h : d.names.length = d.values.length) :
    d.toTable.columnMajor = d.cells.map (padded d.rowCount) := by
  unfold Table.columnMajor toTable
  dsimp only
  rw [length_header h]
  apply List.ext_getElem
  · simp
  · intro c hc hc'
    rw [List.length_map] at hc'
    have hfits := length_cells_le d d.cells[c] (List.getElem_mem hc')
    have hcell : ∀ r : Nat, (d.cells.map fun column => column[r]?.getD Json.null)[c]?.getD Json.null =
        d.cells[c][r]?.getD Json.null := by
      intro r
      rw [List.getElem?_map, List.getElem?_eq_getElem hc']
      rfl
    rw [List.getElem_map, List.getElem_map, List.getElem_range, List.map_map, ← fittedRow_eq_padded hfits,
      ← Table.map_range_cells]
    exact List.map_congr_left fun r _ => hcell r

/-- A table with a header that is sent column by column comes back with every row cut or filled up with null to the
length of the header, and unchanged if its rows are as long. The columns of a data set whose names are as many as its
value columns come back from its rows, each filled up with null to the longest, and behind those of the instants where
there are instants; there are as many rows as the instants and the columns take up. -/
theorem transposed_back :
    (∀ t : Table, t.columns ≠ [] →
      (ofTable t).toTable = ⟨t.columns, t.rows.map (Table.fittedRow t.columns.length)⟩ ∧
        ((∀ row ∈ t.rows, row.length = t.columns.length) → (ofTable t).toTable = t)) ∧
    ∀ d : DataSet, d.names.length = d.values.length →
      (∀ n, d.toTable.rows.length ≤ n ↔ d.instants.length ≤ n ∧ ∀ column ∈ d.values, column.length ≤ n) ∧
      (d.instants = [] →
        d.toTable.columns = d.names ∧ d.toTable.columnMajor = d.values.map (padded d.toTable.rows.length)) ∧
      (d.instants ≠ [] →
        d.toTable.columns = "Time" :: d.names ∧
          d.toTable.columnMajor =
            padded d.toTable.rows.length (d.instants.map Json.int) :: d.values.map (padded d.toTable.rows.length)) := by
  refine ⟨fun t h => ⟨toTable_ofTable h, toTable_ofTable_of_rectangular h⟩, fun d h => ?_⟩
  have hrows : d.toTable.rows.length = d.rowCount := by simp [toTable]
  rw [hrows, columnMajor_toTable h]
  refine ⟨fun n => rowCount_le_iff, fun hnone => ⟨?_, ?_⟩, fun hsome => ⟨?_, ?_⟩⟩
  · exact if_pos hnone
  · rw [cells, if_pos hnone]
  · exact if_neg hsome
  · rw [cells, if_neg hsome, List.map_cons]

/-- Rows of three lengths below a header of two names, and columns of two lengths beside a single instant, named by
expressions because the list of names is empty. -/
theorem transposed_back_ragged :
    let t : Table := ⟨["a", "b"], [[.int 1], [.string "x", .null, .bool true], []]⟩
    let d : DataSet := ⟨some [], some ["s1", "s2"], some [5], [[.int 1, .int 2], []]⟩
    t.columns ≠ [] ∧ (ofTable t).toTable = ⟨["a", "b"], [[.int 1, .null], [.string "x", .null], [.null, .null]]⟩ ∧
      d.names.length = d.values.length ∧ d.instants ≠ [] ∧ d.toTable.columns = ["Time", "s1", "s2"] ∧
      d.toTable.columnMajor = [[.int 5, .null], [.int 1, .int 2], [.null, .null]] := by
  intro t d
  have ht : t.columns ≠ [] := by decide
  have hd : d.names.length = d.values.length := rfl
  have hsome : d.instants ≠ [] := by decide
  obtain ⟨hcolumns, hmajor⟩ := (transposed_back.2 d hd).2.2 hsome
  exact ⟨ht, (transposed_back.1 t ht).1, hd, hsome, hcolumns, hmajor⟩

end SeriesCatalog.DataSet
