/-
The client agrees with the tree. What a session answers to a text, over the web interface and back,
is what the tree answers when the text is run on it directly, and the server's tree afterwards is the
tree that this leaves. One operation agrees because the request arrives and its reply is read for
what it is; a run agrees by induction, as an operation changes neither the engine nor which sessions
are open.
-/
import SeriesCatalog.Client
import SeriesCatalog.Proofs.Service.Connected

namespace SeriesCatalog

namespace Client

variable {σ α : Type}

/-! ## Operations of a session -/

/-- The operation runs a text in an open session. -/
def RunsText (c : Client σ) : Operation → Prop
  | .execute number _ | .query number _ => c.session? number ≠ none
  | _ => False

theorem onSession_of_open {c : Client σ} {number : Nat} (h : c.session? number ≠ none) (call : Call σ α)
    (answer : α → Answer) (s : σ) :
    ∃ session : Session,
      c.onSession number call answer s =
        (((call.on s).1.map answer).mapError .failed,
          { c with sessions := c.sessions.set number (some (session.after (call.on s).1)) }, (call.on s).2) := by
  obtain ⟨session, hsession⟩ := Option.ne_none_iff_exists'.1 h
  refine ⟨session, ?_⟩
  unfold onSession
  rw [hsession]
  rcases call.on s with ⟨result, s'⟩
  cases result <;> rfl

/-- A session that is set stays open, and the others are as they were. -/
theorem session?_set_ne_none {c : Client σ} {number other : Nat} (session : Session)
    (h : c.session? other ≠ none) :
    ({ c with sessions := c.sessions.set number (some session) } : Client σ).session? other ≠ none := by
  unfold session? at h ⊢
  rw [List.getElem?_set]
  split
  · rename_i he
    subst he
    split
    · simp
    · rename_i hlt
      rw [List.getElem?_eq_none (not_lt.1 hlt)] at h
      exact absurd rfl h
  · exact h

theorem step_keeps {c : Client σ} {op : Operation} (h : c.RunsText op) (s : σ) :
    (c.step op s).2.1.engine = c.engine ∧ ∀ op', c.RunsText op' → (c.step op s).2.1.RunsText op' := by
  have hkept : ∀ (number : Nat) (session : Session) (op' : Operation), c.RunsText op' →
      ({ c with sessions := c.sessions.set number (some session) } : Client σ).RunsText op' := by
    intro number session op' h'
    cases op' with
    | execute | query => exact session?_set_ne_none session h'
    | _ => exact h'
  cases op with
  | execute number sql =>
    obtain ⟨session, he⟩ := onSession_of_open h (c.engine.execute sql) (fun _ => .done) s
    rw [step, he]
    exact ⟨rfl, hkept number _⟩
  | query number sql =>
    obtain ⟨session, he⟩ := onSession_of_open h (c.engine.query sql) .rows s
    rw [step, he]
    exact ⟨rfl, hkept number _⟩
  | _ => exact h.elim

/-! ## Agreement -/

/-- The answer of an operation and the tree after it are what the text brings about on a tree. A text run for its
effect is done if it is no listing and the tree accepts it, and is otherwise refused with the code and the words of the
reason. A text run for its rows changes nothing; a listing brings exactly the rows of the tree's table. -/
def Agrees (t : Tree) : Operation → Except Refusal Answer → Tree → Prop
  | .execute _ sql, result, after =>
    after = (t.execute sql).2 ∧
    (result = .ok .done ↔
      (∃ st, Statement.parse sql = .ok st ∧ st.isQuery = false) ∧ ∃ outcome, (t.execute sql).1 = .ok outcome) ∧
    (∀ reason, (t.execute sql).1 = .error reason →
      result = .error (.failed (.server reason.code reason.message sql))) ∧
    (∀ st, Statement.parse sql = .ok st → st.isQuery = true →
      result = .error (.failed (.server 701 Rejection.queryUnexpected.message sql)))
  | .query _ sql, result, after =>
    after = t ∧
    (∀ st, Statement.parse sql = .ok st → st.isQuery = true →
      ∃ table, (t.execute sql).1 = .ok (.rows table) ∧ result = .ok (.rows table)) ∧
    ((∀ st, Statement.parse sql = .ok st → st.isQuery = false) →
      ∃ code message, (code = 700 ∨ code = 701) ∧ result = .error (.failed (.server code message sql)))
  | _, _, _ => False

/-- A run agrees if each operation agrees with the tree that the one before it left. -/
def AgreesThroughout : Tree → List Operation → List (Step Tree) → Prop
  | _, [], [] => True
  | t, op :: ops, (result, _, after) :: steps => Agrees t op result after ∧ AgreesThroughout after ops steps
  | _, _, _ => False

theorem agrees_execute (t : Tree) (number : Nat) (sql : String) :
    Agrees t (.execute number sql)
      ((((t.executed sql).mapError (·.reported sql)).map fun _ => .done).mapError .failed) (t.execute sql).2 := by
  refine ⟨rfl, ?_, fun reason hreason => ?_, fun st hp hq => ?_⟩
  · rw [← Tree.execute_eq_done_iff, ← Tree.executed_eq_ok_iff]
    cases t.executed sql with
    | ok u => exact ⟨fun _ => rfl, fun _ => rfl⟩
    | error reason => exact ⟨nofun, nofun⟩
  · rw [Tree.executed_of_error hreason]
    rfl
  · rw [Tree.executed_of_isQuery hp hq]
    rfl

theorem agrees_query (t : Tree) (number : Nat) (sql : String) :
    Agrees t (.query number sql) ((((t.queried sql).mapError (·.reported sql)).map .rows).mapError .failed) t := by
  refine ⟨rfl, fun st hp hq => ?_, fun hnone => ?_⟩
  · obtain ⟨table, hqueried, hexecute⟩ := Tree.queried_of_isQuery (t := t) hp hq
    rw [hqueried]
    exact ⟨table, hexecute, rfl⟩
  · cases hp : Statement.parse sql with
    | error fault =>
      rw [Tree.queried_of_parse_error hp]
      exact ⟨_, _, .inl rfl, rfl⟩
    | ok st =>
      rw [Tree.queried_of_not_isQuery hp (hnone st hp)]
      exact ⟨_, _, .inr rfl, rfl⟩

/-- One operation of a client of the service agrees with the tree. -/
theorem agrees_step {config : Service} {c : Client Tree} (h : config.Serves c.engine) {op : Operation}
    (hop : c.RunsText op) (t : Tree) : Agrees t op (c.step op t).1 (c.step op t).2.2 := by
  cases op with
  | execute number sql =>
    obtain ⟨session, he⟩ := onSession_of_open hop (c.engine.execute sql) (fun _ => .done) t
    rw [step, he, h.on_execute]
    dsimp only
    exact agrees_execute t number sql
  | query number sql =>
    obtain ⟨session, he⟩ := onSession_of_open hop (c.engine.query sql) .rows t
    rw [step, he, h.on_query]
    dsimp only
    exact agrees_query t number sql
  | _ => exact hop.elim

/-- Every run of texts in open sessions of a client that is connected to the service agrees with the tree throughout. -/
theorem agreesThroughout_run {config : Service} {c : Client Tree} (h : config.Serves c.engine) {ops : List Operation}
    (hops : ∀ op ∈ ops, c.RunsText op) (t : Tree) : AgreesThroughout t ops (c.run t ops) := by
  induction ops generalizing c t with
  | nil => trivial
  | cons op ops ih =>
    obtain ⟨hop, hops⟩ := List.forall_mem_cons.1 hops
    -- the engine is the same afterwards, and what was open still is
    obtain ⟨hengine, hruns⟩ := step_keeps hop t
    exact ⟨agrees_step h hop t, ih (hengine ▸ h) (fun op' h' => hruns op' (hops op' h')) _⟩

/-- A session that creates, is turned down, lists and asks for what cannot be listed. -/
theorem agreesThroughout_run_local :
    let c : Client Tree := ⟨Service.localEngine, [some {}]⟩
    let ops : List Operation :=
      [.execute 0 "create database root.plant", .execute 0 "create timeseries root.plant.a.x with datatype=INT32",
        .execute 0 "create database root.plant.a", .execute 0 "show devices", .query 0 "show timeseries root.**.x",
        .query 0 "delete database root.plant", .query 0 "select 1"]
    ({} : Service).Serves c.engine ∧ (∀ op ∈ ops, c.RunsText op) ∧
      AgreesThroughout Tree.initial ops (c.run Tree.initial ops) := by
  intro c ops
  have hops : ∀ op ∈ ops, c.RunsText op := by simp [ops, c, RunsText, session?]
  exact ⟨Service.serves_local, hops, agreesThroughout_run Service.serves_local hops Tree.initial⟩

end Client

end SeriesCatalog
