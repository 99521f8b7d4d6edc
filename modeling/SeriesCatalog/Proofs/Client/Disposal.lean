/-
A client whose engine has been disposed. It stays disposed, and every operation that needs the engine is
refused without changing the client or reaching the server. The names of a statement are checked before
the engine is asked for its transport, so a name that is no identifier is what the refusal reports, also
then; where every name is one, it reports that the engine has been disposed.
-/
import SeriesCatalog.Transport.Script
import SeriesCatalog.Proofs.Client.History
import SeriesCatalog.Proofs.Engine.Catalog

namespace SeriesCatalog.Client

variable {σ α : Type} {c : Client σ} {op : Operation}

/-! ## One operation -/

theorem onEngine_of_error {call : Call σ α} {error : CatalogError} {s : σ} (h : call.on s = (.error error, s))
    (answer : α → Answer) : c.onEngine call answer s = (.error (.failed error), c, s) := by
  rw [onEngine, h]

theorem onSession_of_error {call : Call σ α} {error : CatalogError} {s : σ} {number : Nat}
    (h : call.on s = (.error error, s)) (hopen : c.session? number ≠ none) (answer : α → Answer) :
    c.onSession number call answer s = (.error (.failed error), c, s) := by
  obtain ⟨session, hsession⟩ := Option.ne_none_iff_exists'.1 hopen
  rw [onSession, hsession, h]
  simp only [Session.after, set_session? hsession]

theorem onEngine_of_ask (h : c.engine.isDisposed = true) {call : Call σ α} {names : List String} {sql : String}
    {read : Table → α} (hcall : call = c.engine.ask (Dialect.built names sql) read) (answer : α → Answer) (s : σ) :
    c.onEngine call answer s = (.error (.failed (Engine.refusal names)), c, s) := by
  subst hcall
  exact onEngine_of_error (Engine.on_ask_of_isDisposed h names sql read s) answer

/-- An operation that needs the engine is refused once the engine has been disposed, if it was the operation of an open
session or of none. -/
theorem step_of_isDisposed (h : c.engine.isDisposed = true) (hop : op.needsEngine = true)
    (hopen : ∀ number, op.session? = some number → c.session? number ≠ none) (s : σ) :
    c.step op s = (.error (.failed (Engine.refusal op.names)), c, s) := by
  have hcall : ∀ {β : Type} (f : Transport σ → Call σ β), (c.engine.call f).on s = (.error .disposed, s) :=
    fun f => Engine.on_call_of_isDisposed h f
  cases op with
  | openSession =>
    rw [step, Session.start, if_pos h]
    rfl
  | execute number sql => exact onSession_of_error (hcall _) (hopen number rfl) _
  | query number sql => exact onSession_of_error (hcall _) (hopen number rfl) _
  | ping => exact onEngine_of_error (hcall _) _
  | schemaNames => exact onEngine_of_ask h Engine.schemaNames_eq_ask _ s
  | tableNames schema => exact onEngine_of_ask h (Engine.tableNames_eq_ask schema) _ s
  | columns table schema => exact onEngine_of_ask h (Engine.columns_eq_ask table schema) _ s
  | hasSchema schema => exact onEngine_of_ask h (Engine.hasSchema_eq_ask schema) _ s
  | hasTable table schema => exact onEngine_of_ask h (Engine.hasTable_eq_ask table schema) _ s
  | closeSession | dispose | constraints => cases hop

theorem result_of_isDisposed (h : c.engine.isDisposed = true) (hop : op.needsEngine = true) {s : σ}
    (hopen : (c.step op s).1 ≠ .error .noSession) :
    (c.step op s).1 = .error (.failed (Engine.refusal op.names)) := by
  have hsession : ∀ number, op.session? = some number → c.session? number ≠ none :=
    fun number hnumber hnone => hopen ((effect_step c op s).noSession_iff.2 ⟨number, hnumber, hnone⟩)
  rw [step_of_isDisposed h hop hsession]

/-! ## Runs -/

/-- An engine that has been disposed stays so, whatever is done next. -/
theorem isDisposed_step (h : c.engine.isDisposed = true) (op : Operation) (s : σ) :
    (c.step op s).2.1.engine.isDisposed = true := (effect_step c op s).isDisposed.2 (.inl h)

theorem refused_of_isDisposed (h : c.engine.isDisposed = true) {s : σ} {ops : List Operation}
    {result : Except Refusal Answer} (hin : (op, result) ∈ c.history s ops) (hop : op.needsEngine = true)
    (hopen : result ≠ .error .noSession) : result = .error (.failed (Engine.refusal op.names)) := by
  induction ops generalizing c s with
  | nil => cases hin
  | cons first ops ih =>
    rw [history_cons] at hin
    rcases List.mem_cons.1 hin with heq | hin
    · obtain ⟨rfl, rfl⟩ := Prod.mk.inj heq
      exact result_of_isDisposed h hop hopen
    · exact ih (isDisposed_step h first s) hin

/-- Whatever stands behind the first disposal in a history and needs the engine was refused, unless its session was not
open. If every name of its statement is an identifier it was refused because the engine had been disposed, and otherwise
because of the first name that is none. -/
theorem refused_behind_dispose {s : σ} {ops : List Operation} {earlier later : List Event}
    {answer result : Except Refusal Answer} (h : c.history s ops = earlier ++ (.dispose, answer) :: later)
    (hin : (op, result) ∈ later) (hop : op.needsEngine = true) (hopen : result ≠ .error .noSession) :
    (result = .error (.failed .disposed) ↔ ∀ name ∈ op.names, Dialect.isIdentifier name = true) ∧
      ∀ before name after, op.names = before ++ name :: after →
        (∀ valid ∈ before, Dialect.isIdentifier valid = true) → Dialect.isIdentifier name = false →
          result = .error (.failed (.invalidIdentifier name)) := by
  obtain ⟨-, c', s', -, -, hlater⟩ := eq_of_history_eq_append h
  rw [hlater] at hin
  have hdisposed : (c'.step .dispose s').2.1.engine.isDisposed = true :=
    (effect_step c' .dispose s').isDisposed.2 (.inr rfl)
  have hresult := refused_of_isDisposed hdisposed hin hop hopen
  constructor
  · rw [hresult, ← Engine.refusal_eq_disposed_iff]
    simp
  · intro before name after hnames hbefore hname
    rw [hresult, hnames, Engine.refusal_of_not_isIdentifier hbefore hname]

/-- A session that was opened before, and the columns of a table whose name has a blank. -/
theorem refused_behind_dispose_session :
    let scripted : Client Script := ⟨Engine.ofTransport Script.transport, []⟩
    let refused : Except Refusal Answer := .error (.failed (.invalidIdentifier "a b"))
    let later : List Event :=
      [(.query 0 "show devices", .error (.failed .disposed)), (.columns "a b" "root.plant", refused)]
    scripted.history [] [.openSession, .dispose, .query 0 "show devices", .columns "a b" "root.plant"] =
        [(.openSession, .ok (.opened 0))] ++ (.dispose, .ok .disposed) :: later ∧
      (refused = .error (.failed .disposed) ↔ ∀ name ∈ ["root.plant", "a b"], Dialect.isIdentifier name = true) := by
  intro scripted refused later
  have hsplit : scripted.history [] [.openSession, .dispose, .query 0 "show devices", .columns "a b" "root.plant"] =
      [(.openSession, .ok (.opened 0))] ++ (.dispose, .ok .disposed) :: later := rfl
  have hin : (.columns "a b" "root.plant", refused) ∈ later := .tail _ (.head _)
  have hopen : refused ≠ .error .noSession := by simp [refused]
  exact ⟨hsplit, (refused_behind_dispose hsplit hin rfl hopen).1⟩

/-- A name with a blank is reported though the engine has been disposed. -/
theorem invalidIdentifier_behind_dispose :
    let scripted : Client Script := ⟨Engine.ofTransport Script.transport, []⟩
    let refused : Except Refusal Answer := .error (.failed (.invalidIdentifier "a b"))
    scripted.history [] [.dispose, .tableNames "a b"] = [(.dispose, .ok .disposed), (.tableNames "a b", refused)] ∧
      ∀ answer, refused = .error answer → answer ≠ .failed .disposed :=
  ⟨rfl, by rintro _ ⟨⟩; decide⟩

end SeriesCatalog.Client
