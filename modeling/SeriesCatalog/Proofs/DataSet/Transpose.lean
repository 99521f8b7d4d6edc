/-
A table survives being sent column by column. Every cell of the data set made from a table is the
cell of the table at its place, or null where the row is too short; as the header is not empty, the
longest column has as many cells as the table has rows. So the rows that come back are those of the
table, cut or filled up to the header, and a table whose rows are as long as its header is unchanged.
-/
import SeriesCatalog.DataSet
import Mathlib.Tactic

namespace SeriesCatalog

/-- A row cut or filled up with null to a length. -/
def Table.fittedRow (n : Nat) (row : List Json) : List Json := row.take n ++ List.replicate (n - row.length) .null

theorem Table.fittedRow_of_length {n : Nat} {row : List Json} (h : row.length = n) : fittedRow n row = row := by
  simp [fittedRow, ← h]

/-- The cells of a row place by place. -/
theorem Table.map_range_cells (n : Nat) (row : List Json) :
    (List.range n).map (fun c => row[c]?.getD .null) = fittedRow n row := by
  apply List.ext_getElem
  · simp only [List.length_map, List.length_range, fittedRow, List.length_append, List.length_take,
      List.length_replicate]
    omega
  · intro c hc _
    rw [List.length_map, List.length_range] at hc
    simp only [List.getElem_map, List.getElem_range, fittedRow, List.getElem_append]
    split
    · rename_i hlt
      rw [List.length_take] at hlt
      rw [List.getElem_take, List.getElem?_eq_getElem (by omega), Option.getD_some]
    · rename_i hge
      rw [List.length_take] at hge
      rw [List.getElem_replicate, List.getElem?_eq_none (by omega), Option.getD_none]

namespace DataSet

theorem foldl_max_le_iff {lengths : List Nat} {a n : Nat} :
    lengths.foldl max a ≤ n ↔ a ≤ n ∧ ∀ length ∈ lengths, length ≤ n := by
  induction lengths generalizing a with
  | nil => simp
  | cons length lengths ih => rw [List.foldl_cons, ih, Nat.max_le, List.forall_mem_cons, and_assoc]

/-- There are as many rows as the instants and every column take up, and no more. -/
theorem rowCount_le_iff {d : DataSet} {n : Nat} :
    d.rowCount ≤ n ↔ d.instants.length ≤ n ∧ ∀ column ∈ d.values, column.length ≤ n := by
  rw [rowCount, foldl_max_le_iff, List.forall_mem_map]

theorem rowCount_ofTable {t : Table} (h : t.columns ≠ []) : (ofTable t).rowCount = t.rows.length := by
  have hlength : ∀ column ∈ t.columnMajor, column.length = t.rows.length := by
    intro column hc
    obtain ⟨c, -, rfl⟩ := List.mem_map.1 hc
    rw [List.length_map]
  have hcolumns : t.columnMajor ≠ [] := by
    rw [← List.length_pos_iff, Table.length_columnMajor]
    exact List.length_pos_iff.2 h
  obtain ⟨column, hc⟩ := List.exists_mem_of_ne_nil _ hcolumns
  refine le_antisymm (rowCount_le_iff.2 ⟨Nat.zero_le _, fun column hc => (hlength column hc).le⟩) ?_
  rw [← hlength column hc]
  exact (rowCount_le_iff.1 le_rfl).2 column hc

theorem header_ofTable {t : Table} (h : t.columns ≠ []) : (ofTable t).header = t.columns := by
  have hnames : (some t.columns).filter (fun names => names ≠ []) = some t.columns := by
    rw [Option.filter_some, if_pos (decide_eq_true h)]
  simp only [header, instants, ofTable, Option.getD_some, if_true, names]
  rw [hnames]

/-- A table comes back with its rows cut or filled up to the header. -/
theorem toTable_ofTable {t : Table} (h : t.columns ≠ []) :
    (ofTable t).toTable = ⟨t.columns, t.rows.map (Table.fittedRow t.columns.length)⟩ := by
  have hcell : ∀ (r : Nat) (hr : r < t.rows.length),
      (ofTable t).cells.map (fun column => column[r]?.getD .null) = Table.fittedRow t.columns.length t.rows[r] := by
    intro r hr
    rw [← Table.map_range_cells]
    simp [cells, instants, ofTable, Table.columnMajor, List.getElem?_eq_getElem hr]
  unfold toTable
  rw [header_ofTable h, rowCount_ofTable h, Table.mk.injEq]
  refine ⟨rfl, ?_⟩
  apply List.ext_getElem
  · simp
  · intro r hr _
    rw [List.length_map, List.length_range] at hr
    rw [List.getElem_map, List.getElem_range, List.getElem_map, hcell r hr]

/-- A table whose rows are as long as its header comes back as it was. -/
theorem toTable_ofTable_of_rectangular {t : Table} (h : t.columns ≠ [])
    (hrows : ∀ row ∈ t.rows, row.length = t.columns.length) : (ofTable t).toTable = t := by
  rw [toTable_ofTable h]
  have hfit : t.rows.map (Table.fittedRow t.columns.length) = t.rows := by
    rw [List.map_congr_left fun row hrow => Table.fittedRow_of_length (hrows row hrow)]
    exact List.map_id _
  rw [hfit]

end DataSet

end SeriesCatalog
