/-
Replies whose status line reports no success. For a statement without rows, and where the server is only
asked whether it answers, a status body still decides: the call succeeds if the body says so, and fails
in any other case. Where rows are asked for, a body with a code and no values is read as such a status,
and what is neither that nor a data set is an error.
-/
import SeriesCatalog.Proofs.Service.Connected

namespace SeriesCatalog.RestClient

open Http

variable {σ : Type} {c : RestClient} {link : Link σ} {r : Reply} {sql : String} {s s' : σ} {v : Json}

/-! ## Bodies -/

/-- The body is a status of success. -/
def SaysSuccess (body : List UInt8) : Prop :=
  ∃ status, Wire.Status.ofBytes? body = some status ∧ status.code = Wire.successCode

/-- The value is taken for a status where rows are asked for: it has a code and no values. -/
def isStatus (v : Json) : Bool := (v.member? "code").isSome && (v.member? "values").isNone

/-- The body is a status where rows are asked for. -/
def BringsStatus (body : List UInt8) : Prop := ∃ v, Json.ofBytes? body = some v ∧ isStatus v = true

/-- The body is a data set where rows are asked for. -/
def BringsRows (body : List UInt8) : Prop :=
  ∃ v d, Json.ofBytes? body = some v ∧ isStatus v = false ∧ DataSet.ofJson? v = some d

/-! ## Results of a reply -/

theorem checkStatus_eq_ok_iff (h : r.isSuccess = false) (sql : String) :
    checkStatus r sql = .ok () ↔ SaysSuccess r.body := by
  unfold checkStatus SaysSuccess
  cases hstatus : Wire.Status.ofBytes? r.body with
  | none => simp [h]
  | some status =>
    by_cases hcode : status.code = Wire.successCode
    · simp [hcode]
    · simp [hcode]

theorem rows_of_isStatus (hjson : Json.ofBytes? r.body = some v) (h : isStatus v = true) :
    rows r sql = (checkStatus r sql).map fun _ => {} := by
  unfold isStatus at h
  unfold rows
  rw [hjson]
  dsimp only
  rw [if_pos h]
  cases checkStatus r sql <;> rfl

theorem rows_of_not_isStatus (hjson : Json.ofBytes? r.body = some v) (h : isStatus v = false) :
    rows r sql = ((DataSet.ofJson? v).map DataSet.toTable).elim (.error (.decode "Unexpected query payload")) .ok := by
  unfold isStatus at h
  unfold rows
  rw [hjson]
  dsimp only
  rw [if_neg (Bool.eq_false_iff.1 h)]
  cases DataSet.ofJson? v <;> rfl

/-- Rows are read exactly from a status of success, of which there are none, and from a data set. -/
theorem exists_rows_iff (h : r.isSuccess = false) :
    (∃ table, rows r sql = .ok table) ↔ BringsStatus r.body ∧ SaysSuccess r.body ∨ BringsRows r.body := by
  unfold BringsStatus BringsRows
  cases hjson : Json.ofBytes? r.body with
  | none => simp [rows, hjson, h]
  | some v =>
    cases hkind : isStatus v with
    | true =>
      rw [rows_of_isStatus hjson hkind, ← checkStatus_eq_ok_iff h sql]
      cases checkStatus r sql <;> simp [Except.map, hkind]
    | false =>
      rw [rows_of_not_isStatus hjson hkind]
      cases hset : DataSet.ofJson? v <;> simp [hkind, hset]

/-! ## Calls -/

theorem on_ping_of_send (h : (c.send link pingErrand).on s = (.ok r, s')) :
    (c.transport link).ping.on s = (checkStatus r "ping", s') := by
  show Call.on (c.send link pingErrand >>= fun r => liftM (checkStatus r "ping")) s = _
  rw [Call.on_bind, h]
  rfl

theorem exists_error_iff {α : Type} {result : Except CatalogError α} :
    (∃ error, (result, s) = (.error error, s)) ↔ ¬ ∃ a, result = .ok a := by
  cases result <;> simp

/-- After a reply whose status line reports no success, asking for an answer and running a statement fail exactly if the
body is no status of success, and so does asking for rows unless the body brings some. -/
theorem failed_of_not_isSuccess (h : r.isSuccess = false) :
    ((c.send link pingErrand).on s = (.ok r, s') →
        ((∃ error, (c.transport link).ping.on s = (.error error, s')) ↔ ¬ SaysSuccess r.body)) ∧
      ((c.send link (c.sqlErrand "nonQuery" sql)).on s = (.ok r, s') →
        ((∃ error, ((c.transport link).execute sql).on s = (.error error, s')) ↔ ¬ SaysSuccess r.body)) ∧
      ((c.send link (c.sqlErrand "query" sql)).on s = (.ok r, s') → ¬ BringsRows r.body →
        ((∃ error, ((c.transport link).query sql).on s = (.error error, s')) ↔
          ¬ (BringsStatus r.body ∧ SaysSuccess r.body))) := by
  refine ⟨fun hsend => ?_, fun hsend => ?_, fun hsend hrows => ?_⟩
  · rw [on_ping_of_send hsend, exists_error_iff, ← checkStatus_eq_ok_iff h "ping"]
    exact not_congr ⟨fun ⟨_, hok⟩ => hok, fun hok => ⟨(), hok⟩⟩
  · rw [Service.on_execute_of_send hsend, exists_error_iff, ← checkStatus_eq_ok_iff h sql]
    exact not_congr ⟨fun ⟨_, hok⟩ => hok, fun hok => ⟨(), hok⟩⟩
  · rw [Service.on_query_of_send hsend, exists_error_iff, exists_rows_iff h, or_iff_left hrows]

/-! ## A server that always replies the same -/

/-- A client of a server on this machine. -/
def localClient : RestClient := ⟨"127.0.0.1:18080", "/rest/v1", basicCredentials "root" "IoTDB@2011", 30000⟩

/-- The way to a server that replies to every request in the same way. -/
def replying (r : Reply) : Link σ := fun _ s => (.reply r, s)

theorem on_send_replying {errand : Errand}
    (hread : Address.read (localClient.server ++ errand.place) = .ok ⟨localClient.server, errand.place⟩) (s : σ) :
    (localClient.send (replying r) errand).on s = (.ok r, s) := by
  have hserver : IsServer localClient.server := ⟨by decide +kernel, by decide +kernel⟩
  rw [Service.on_send_of_read hread (hserver.server_mk _)]
  rfl

/-- A server that is busy replies with a text. -/
theorem failed_of_busy :
    let busy : Reply := ⟨503, none, "busy".toUTF8.toList⟩
    busy.isSuccess = false ∧
      (∃ error, (localClient.transport (replying busy)).ping.on () = (.error error, ())) ∧
      (∃ error, ((localClient.transport (replying busy)).execute "show x").on () = (.error error, ())) ∧
      ∃ error, ((localClient.transport (replying busy)).query "show x").on () = (.error error, ()) := by
  intro busy
  have hsays : ¬ SaysSuccess busy.body := fun ⟨status, hstatus, _⟩ => by
    have hnone : Wire.Status.ofBytes? busy.body = none := by decide +kernel
    rw [hnone] at hstatus
    cases hstatus
  have hrows : ¬ BringsRows busy.body := fun ⟨v, _, hjson, _⟩ => by
    have hnone : Json.ofBytes? busy.body = none := by decide +kernel
    rw [hnone] at hjson
    cases hjson
  obtain ⟨hping, hexecute, hquery⟩ :=
    @failed_of_not_isSuccess Unit localClient (replying busy) busy "show x" () () rfl
  refine ⟨rfl, (hping ?_).2 hsays, (hexecute ?_).2 hsays, (hquery ?_ hrows).2 fun h => hsays h.2⟩
  · exact on_send_replying (by decide +kernel) ()
  · exact on_send_replying (by decide +kernel) ()
  · exact on_send_replying (by decide +kernel) ()

/-- A statement is done if the body says so, though the status line reports a fault of the server. -/
theorem done_despite_status_line :
    let reply : Reply := ⟨500, none, Wire.Status.success.body⟩
    reply.isSuccess = false ∧ ((localClient.transport (replying reply)).execute "show x").on () = (.ok (), ()) := by
  intro reply
  have hsend : (localClient.send (replying reply) (localClient.sqlErrand "nonQuery" "show x")).on () =
      (.ok reply, ()) :=
    on_send_replying (by decide +kernel) ()
  have hstatus : Wire.Status.ofBytes? reply.body = some .success := Wire.Status.ofBytes?_body (by decide)
  refine ⟨rfl, ?_⟩
  rw [Service.on_execute_of_send hsend, (checkStatus_eq_ok_iff rfl _).2 ⟨_, hstatus, rfl⟩]

end SeriesCatalog.RestClient
