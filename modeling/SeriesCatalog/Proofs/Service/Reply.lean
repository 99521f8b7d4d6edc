/-
What a client makes of the replies of the service. A statement and a status whose code has 64 bits arrive as
they were sent. The reply to a statement is read as what became of the statement: nothing when it was done,
its rows when it has some, and the code and the words of the reason when it was turned down. No reason has the
code of success, and a status, which has a code and no values, is told from a data set by just that.
-/
import SeriesCatalog.Transport.Rest
import SeriesCatalog.Service
import SeriesCatalog.Proofs.Json.ReadBack
import SeriesCatalog.Proofs.Tree.Answers

namespace SeriesCatalog

/-! ## Bodies of requests and replies -/

namespace Wire

open Json

theorem statement?_statementBody (sql : String) : statement? (statementBody sql) = some sql := by
  have hread : Spelled.ofBytes? (statementBody sql) = some (.object [(unitsOf "sql", .string (unitsOf sql))]) :=
    Spelled.ofBytes?_bytes 1 (by simp [Fits, FitsMembers])
  simp [statement?, hread, Spelled.record?, recordOfMembers?, Spelled.text?]

theorem Status.ofBytes?_body {s : Status} (h : Bounded.isSigned64 s.code = true) :
    Status.ofBytes? s.body = some s := by
  have hword : IsWord s.code := by
    unfold Bounded.isSigned64 at h
    simp only [Bool.and_eq_true, decide_eq_true_eq] at h
    exact ⟨h.1, by omega⟩
  have hread : Spelled.ofBytes? s.body = some (.object [(unitsOf "code", .numeral (wholeNumeral s.code)),
      (unitsOf "message", .string (unitsOf s.message))]) :=
    Spelled.ofBytes?_bytes 1 (by simp [Fits, FitsMembers, Json.int, Number.IsWord, hword])
  have hcode : (some s.code).filter Bounded.isSigned64 = some s.code := by rw [Option.filter_some, if_pos h]
  simp [ofBytes?, hread, Spelled.record?, recordOfMembers?, Spelled.text?, Spelled.word?, Spelled.orNull?,
    orDefault, whole?_wholeNumeral hword, hcode]

end Wire

/-! ## Reasons -/

/-- The error by which a client reports that a text was turned down. -/
def Rejection.reported (reason : Rejection) (sql : String) : CatalogError :=
  .server reason.code reason.message sql

theorem Rejection.code_ne_success (reason : Rejection) : reason.code ≠ Wire.successCode := by
  cases reason <;> simp [code, Wire.successCode]

theorem Rejection.isSigned64_code (reason : Rejection) : Bounded.isSigned64 reason.code = true := by
  cases reason <;> simp [code, Bounded.isSigned64]

namespace Service

/-! ## Outcomes at the two endpoints -/

variable {tree : Tree} {sql : String}

theorem runAt_of_parse_ok {forQueries : Bool} {st : Statement} (h : Statement.parse sql = .ok st) :
    runAt forQueries tree sql =
      if st.isQuery = forQueries then tree.apply st
      else if forQueries then (.error .queryExpected, tree) else (.error .queryUnexpected, tree) := by
  rw [runAt, h]

theorem runAt_of_parse_error {forQueries : Bool} {fault : Statement.Fault} (h : Statement.parse sql = .error fault) :
    runAt forQueries tree sql = (.error (.malformed fault), tree) := by
  rw [runAt, h]

/-- Where texts are run for their effect, listings are turned down. -/
theorem runAt_false : runAt false tree sql = ((tree.executed sql).map fun _ => .done, (tree.execute sql).2) := by
  cases hp : Statement.parse sql with
  | error fault =>
    have hexecute := Tree.execute_of_parse_error (t := tree) hp
    have hexecuted : tree.executed sql = .error (.malformed fault) := Tree.executed_of_error (by rw [hexecute])
    rw [runAt_of_parse_error hp, hexecute, hexecuted]
    rfl
  | ok st =>
    have hexecute := Tree.execute_of_parse_ok (t := tree) hp
    rw [runAt_of_parse_ok hp]
    cases hq : st.isQuery with
    | true =>
      obtain ⟨table, -, happly⟩ := Tree.apply_of_isQuery (t := tree) hq
      rw [if_neg (by decide), if_neg (by decide), Tree.executed_of_isQuery hp hq, hexecute, happly]
      rfl
    | false =>
      rw [if_pos rfl, hexecute]
      -- the trees are the same, and so are the answers, which are no rows
      refine Prod.ext ?_ rfl
      rcases Tree.apply_of_not_isQuery (t := tree) hq with hd | ⟨reason, hr⟩
      · rw [hd, Tree.executed_eq_ok_iff.2 (by rw [hexecute, hd])]
        rfl
      · rw [hr, Tree.executed_of_error (by rw [hexecute, hr])]
        rfl

/-- Where texts are run for their rows, everything else is turned down. -/
theorem runAt_true : runAt true tree sql = ((tree.queried sql).map .rows, tree) := by
  cases hp : Statement.parse sql with
  | error fault =>
    rw [runAt_of_parse_error hp, Tree.queried, hp]
    rfl
  | ok st =>
    rw [runAt_of_parse_ok hp]
    cases hq : st.isQuery with
    | true =>
      obtain ⟨table, -, happly⟩ := Tree.apply_of_isQuery (t := tree) hq
      have hqueried : tree.queried sql = .ok table := by rw [Tree.queried, hp]; simp only [happly]
      rw [if_pos rfl, happly, hqueried]
      rfl
    | false =>
      rw [if_neg (by decide), if_pos rfl, Tree.queried_of_not_isQuery hp hq]
      rfl

theorem sendable_of_queried {table : Table} (h : tree.queried sql = .ok table) : table.Sendable := by
  unfold Tree.queried at h
  split at h
  · cases h
  · rename_i st hp
    cases hq : st.isQuery with
    | true =>
      obtain ⟨listing, hlisting, happly⟩ := Tree.apply_of_isQuery (t := tree) hq
      rw [happly] at h
      cases h
      exact hlisting
    | false =>
      rcases Tree.apply_of_not_isQuery (t := tree) hq with hd | ⟨reason, hr⟩
      · rw [hd] at h; cases h
      · rw [hr] at h; cases h

/-! ## Statuses -/

theorem checkStatus_done : RestClient.checkStatus (outcomeReply (.ok .done)) sql = .ok () := by
  have hstatus : Wire.Status.ofBytes? Wire.Status.success.body = some .success :=
    Wire.Status.ofBytes?_body (by decide)
  unfold RestClient.checkStatus outcomeReply jsonReply
  simp only [hstatus]
  rfl

/-- The error that a status without success stands for, whatever the status line says. -/
theorem checkStatus_of_failed (status : Wire.Status) (hword : Bounded.isSigned64 status.code = true)
    (hfailed : status.code ≠ Wire.successCode) (line : Nat) :
    RestClient.checkStatus (jsonReply line status.body) sql = .error (.server status.code status.message sql) := by
  have hstatus : Wire.Status.ofBytes? status.body = some status := Wire.Status.ofBytes?_body hword
  unfold RestClient.checkStatus jsonReply
  simp only [hstatus]
  rw [if_neg hfailed]

theorem checkStatus_rejection (reason : Rejection) :
    RestClient.checkStatus (outcomeReply (.error reason)) sql = .error (reason.reported sql) :=
  checkStatus_of_failed ⟨reason.code, reason.message⟩ reason.isSigned64_code reason.code_ne_success 200

/-! ## Rows -/

/-- The data set of a table that can be sent is plain. -/
theorem plain_ofTable {t : Table} (h : t.Sendable) : (DataSet.ofTable t).Plain := by
  refine ⟨fun column hc v hv => ?_, fun n hn => nomatch hn⟩
  obtain ⟨c, -, rfl⟩ := List.mem_map.1 hc
  obtain ⟨row, hrow, rfl⟩ := List.mem_map.1 hv
  cases hcell : row[c]? with
  | none => trivial
  | some v => exact h.cells row hrow v (List.mem_of_getElem? hcell)

theorem rows_of_table {t : Table} (h : t.Sendable) :
    RestClient.rows (outcomeReply (.ok (.rows t))) sql = .ok t := by
  have hplain := plain_ofTable h
  have hread : Json.ofBytes? (DataSet.ofTable t).toJson.bytes = some (DataSet.ofTable t).toJson.sorted :=
    Json.ofBytes?_bytes hplain.fits_toJson
  have hcode : ((DataSet.ofTable t).toJson.sorted.member? "code").isSome = false := by
    rw [hplain.sorted_toJson]
    simp [Json.member?]
  unfold RestClient.rows outcomeReply jsonReply
  simp only [hread, hcode, Bool.false_and, Bool.false_eq_true, if_false, hplain.ofJson?_sorted,
    DataSet.toTable_ofTable_of_rectangular h.header h.rectangular]

/-- A status with a code is no data set. -/
theorem rows_of_failed (status : Wire.Status) (hword : Bounded.isSigned64 status.code = true)
    (hfailed : status.code ≠ Wire.successCode) (line : Nat) :
    RestClient.rows (jsonReply line status.body) sql = .error (.server status.code status.message sql) := by
  have hread : Json.ofBytes? status.body =
      some (.object [("code", .int status.code), ("message", .string status.message)]) := by
    have hcode : Json.IsWord status.code := Json.fits_int hword
    rw [Wire.Status.body, Json.ofBytes?_bytes (by simp [Json.Fits, Json.FitsMembers, Json.maxDepth, Json.int,
      Json.Number.IsWord, hcode])]
    simp only [Json.sorted, Json.sortedMembers, Json.int, Ascending.ofList, Ascending.insert, List.foldl,
      String.reduceLT, String.reduceEq, if_false]
  have hstatus : RestClient.checkStatus (jsonReply line status.body) sql =
      .error (.server status.code status.message sql) :=
    checkStatus_of_failed status hword hfailed line
  unfold jsonReply at hstatus ⊢
  unfold RestClient.rows
  -- the code is there and the values are not, so the reply is read as a status
  simp only [hread, hstatus]
  simp [Json.member?]

theorem rows_of_rejection (reason : Rejection) :
    RestClient.rows (outcomeReply (.error reason)) sql = .error (reason.reported sql) :=
  rows_of_failed ⟨reason.code, reason.message⟩ reason.isSigned64_code reason.code_ne_success 200

end Service

end SeriesCatalog
