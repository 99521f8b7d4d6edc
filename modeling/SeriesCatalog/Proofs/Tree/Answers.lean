/-
What the tree answers to a statement. A listing leaves the tree as it was and answers with a table
whose rows are as long as its header and hold nothing but texts, null and small numbers; every other
statement is done or turned down. From this come the two answers that a server gives to a text: where
it takes texts for their effect, and where it takes them for their rows.
-/
import SeriesCatalog.Tree.Execution
import SeriesCatalog.Proofs.DataSet.ReadBack

namespace SeriesCatalog

/-- A table that can be sent without loss: its header is not empty, its rows are as long, and no cell nests. -/
structure Table.Sendable (t : Table) : Prop where
  header : t.columns ≠ []
  rectangular : ∀ row ∈ t.rows, row.length = t.columns.length
  cells : ∀ row ∈ t.rows, ∀ v ∈ row, Json.Fits 0 v

namespace Tree

variable {t : Tree}

/-! ## Listings -/

theorem sendable_showDatabases (pattern : Option Path) : (t.showDatabases pattern).Sendable := by
  refine ⟨List.cons_ne_nil _ _, fun row hrow => ?_, fun row hrow v hv => ?_⟩
  · obtain ⟨db, -, rfl⟩ := List.mem_map.1 hrow
    rfl
  · obtain ⟨db, -, rfl⟩ := List.mem_map.1 hrow
    simp only [List.mem_cons, List.not_mem_nil, or_false] at hv
    rcases hv with rfl | rfl | rfl | rfl
    · trivial
    all_goals exact Json.fits_int (by decide)

theorem sendable_showDevices (pattern : Option Path) : (t.showDevices pattern).Sendable := by
  refine ⟨List.cons_ne_nil _ _, fun row hrow => ?_, fun row hrow v hv => ?_⟩
  · obtain ⟨device, -, rfl⟩ := List.mem_map.1 hrow
    rfl
  · obtain ⟨device, -, rfl⟩ := List.mem_map.1 hrow
    simp only [List.mem_cons, List.not_mem_nil, or_false] at hv
    rcases hv with rfl | rfl | rfl | rfl <;> trivial

theorem sendable_showSeries (pattern : Option Path) : (t.showSeries pattern).Sendable := by
  refine ⟨List.cons_ne_nil _ _, fun row hrow => ?_, fun row hrow v hv => ?_⟩
  · obtain ⟨s, -, rfl⟩ := List.mem_map.1 hrow
    rfl
  · obtain ⟨s, -, rfl⟩ := List.mem_map.1 hrow
    simp only [seriesRow, List.mem_cons, List.not_mem_nil, or_false] at hv
    rcases hv with rfl | rfl | rfl | rfl | rfl | rfl | rfl | rfl | rfl | rfl | rfl <;> trivial

/-- A query answers with rows that can be sent, and changes nothing. -/
theorem apply_of_isQuery {st : Statement} (h : st.isQuery = true) :
    ∃ table : Table, table.Sendable ∧ t.apply st = (.ok (.rows table), t) := by
  cases st with
  | showDatabases pattern => exact ⟨_, sendable_showDatabases pattern, rfl⟩
  | showDevices pattern => exact ⟨_, sendable_showDevices pattern, rfl⟩
  | showSeries pattern => exact ⟨_, sendable_showSeries pattern, rfl⟩
  | createDatabase | deleteDatabases | createSeries | deleteSeries => cases h

theorem settle_isOk_iff {r : Except Rejection Tree} : (t.settle r).1.isOk = true ↔ ∃ t', r = .ok t' := by
  cases r with
  | ok changed => exact iff_of_true rfl ⟨changed, rfl⟩
  | error reason => exact iff_of_false Bool.false_ne_true nofun

theorem eq_ok_of_settle {r : Except Rejection Tree} (h : (t.settle r).1 = .ok .done) : r = .ok (t.settle r).2 := by
  cases r with
  | ok changed => rfl
  | error reason => cases h

/-- Any other statement is done or turned down. -/
theorem apply_of_not_isQuery {st : Statement} (h : st.isQuery = false) :
    (t.apply st).1 = .ok .done ∨ ∃ reason, (t.apply st).1 = .error reason := by
  have settled : ∀ r : Except Rejection Tree,
      (t.settle r).1 = .ok .done ∨ ∃ reason, (t.settle r).1 = .error reason := by
    intro r
    cases r with
    | ok changed => exact .inl rfl
    | error reason => exact .inr ⟨reason, rfl⟩
  cases st with
  | createDatabase | deleteDatabases | createSeries | deleteSeries => exact settled _
  | showDatabases | showDevices | showSeries => cases h

/-! ## Texts -/

theorem execute_of_parse_ok {sql : String} {st : Statement} (h : Statement.parse sql = .ok st) :
    t.execute sql = t.apply st := by
  rw [execute, h]

theorem execute_of_parse_error {sql : String} {fault : Statement.Fault} (h : Statement.parse sql = .error fault) :
    t.execute sql = (.error (.malformed fault), t) := by
  rw [execute, h]

/-- The answer to a text that is run for its effect. A listing is not taken. -/
def executed (t : Tree) (sql : String) : Except Rejection Unit :=
  match (t.execute sql).1 with
  | .ok .done => .ok ()
  | .ok (.rows _) => .error .queryUnexpected
  | .error reason => .error reason

/-- The answer to a text that is run for its rows. Only a listing is taken. -/
def queried (t : Tree) (sql : String) : Except Rejection Table :=
  match Statement.parse sql with
  | .error fault => .error (.malformed fault)
  | .ok statement =>
    match (t.apply statement).1 with
    | .ok (.rows table) => .ok table
    | _ => .error .queryExpected

theorem executed_of_isQuery {sql : String} {st : Statement} (h : Statement.parse sql = .ok st)
    (hq : st.isQuery = true) : t.executed sql = .error .queryUnexpected := by
  obtain ⟨table, -, happly⟩ := apply_of_isQuery (t := t) hq
  rw [executed, execute_of_parse_ok h, happly]

theorem executed_of_error {sql : String} {reason : Rejection} (h : (t.execute sql).1 = .error reason) :
    t.executed sql = .error reason := by
  rw [executed, h]

theorem executed_eq_ok_iff {sql : String} : t.executed sql = .ok () ↔ (t.execute sql).1 = .ok .done := by
  unfold executed
  split
  · rename_i h
    simp [h]
  · rename_i h
    simp [h]
  · rename_i h
    simp [h]

/-- What is done is no listing, and anything else that is accepted is done. -/
theorem execute_eq_done_iff {sql : String} :
    (t.execute sql).1 = .ok .done ↔
      (∃ st, Statement.parse sql = .ok st ∧ st.isQuery = false) ∧ ∃ outcome, (t.execute sql).1 = .ok outcome := by
  constructor
  · intro hdone
    refine ⟨?_, _, hdone⟩
    cases hp : Statement.parse sql with
    | error fault => rw [execute_of_parse_error hp] at hdone; cases hdone
    | ok st =>
      refine ⟨st, rfl, Bool.eq_false_iff.2 fun hq => ?_⟩
      obtain ⟨table, -, happly⟩ := apply_of_isQuery (t := t) hq
      rw [execute_of_parse_ok hp, happly] at hdone
      cases hdone
  · rintro ⟨⟨st, hp, hq⟩, outcome, hok⟩
    rw [execute_of_parse_ok hp] at hok ⊢
    rcases apply_of_not_isQuery (t := t) hq with hd | ⟨reason, hr⟩
    · exact hd
    · rw [hr] at hok; cases hok

theorem queried_of_isQuery {sql : String} {st : Statement} (h : Statement.parse sql = .ok st)
    (hq : st.isQuery = true) : ∃ table, t.queried sql = .ok table ∧ (t.execute sql).1 = .ok (.rows table) := by
  obtain ⟨table, -, happly⟩ := apply_of_isQuery (t := t) hq
  refine ⟨table, ?_, ?_⟩
  · rw [queried, h]
    simp only [happly]
  · rw [execute_of_parse_ok h, happly]

theorem queried_of_parse_error {sql : String} {fault : Statement.Fault} (h : Statement.parse sql = .error fault) :
    t.queried sql = .error (.malformed fault) := by
  rw [queried, h]

theorem queried_of_not_isQuery {sql : String} {st : Statement} (h : Statement.parse sql = .ok st)
    (hq : st.isQuery = false) : t.queried sql = .error .queryExpected := by
  rw [queried, h]
  rcases apply_of_not_isQuery (t := t) hq with hd | ⟨reason, hr⟩
  · simp only [hd]
  · simp only [hr]

end Tree

end SeriesCatalog
