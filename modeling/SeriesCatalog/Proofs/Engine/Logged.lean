/-
Engines whose requests are kept in a log. A call runs as it would without the log, and puts there what
it sends: one request, or none if the engine has been disposed or the call's statement was not built.
-/
import SeriesCatalog.Proofs.Engine.Catalog

namespace SeriesCatalog

variable {σ α β Entry : Type}

/-! ## Calls that log -/

namespace Call

/-- The second call does what the first does, and puts these entries at the end of a log besides. -/
def Logs (call : Call σ α) (kept : Call (σ × List Entry) α) (entries : List Entry) : Prop :=
  ∀ s log, kept.on (s, log) = ((call.on s).1, ((call.on s).2, log ++ entries))

theorem logs_logged (call : Call σ α) (entry : Entry) : call.Logs (call.logged entry) [entry] := fun _ _ => rfl

theorem logs_throw (error : CatalogError) :
    Logs (throw error : Call σ α) (throw error : Call (σ × List Entry) α) [] := by
  intro s log
  rw [on_throw, on_throw, List.append_nil]

theorem Logs.read {call : Call σ α} {kept : Call (σ × List Entry) α} {entries : List Entry} (h : call.Logs kept entries)
    (f : α → β) : Logs (do return f (← call)) (do return f (← kept)) entries := by
  intro s log
  rw [on_read, on_read, h]

end Call

/-! ## Calls of an engine -/

namespace Engine

/-- The engine whose requests are kept in a log. -/
def logged (e : Engine σ) : Engine (σ × List Sent) := ⟨e.target, e.dialect, e.transport.map Transport.logged⟩

variable {e : Engine σ}

@[simp] theorem isDisposed_logged : e.logged.isDisposed = e.isDisposed := by
  simp [logged, isDisposed]

theorem logs_call {f : Transport σ → Call σ α} {g : Transport (σ × List Sent) → Call (σ × List Sent) α} {sent : Sent}
    (h : ∀ t : Transport σ, (f t).Logs (g t.logged) [sent]) :
    (e.call f).Logs (e.logged.call g) (if e.isDisposed then [] else [sent]) := by
  rcases e with ⟨target, dialect, _ | t⟩
  · exact Call.logs_throw .disposed
  · exact h t

theorem logs_ping : e.ping.Logs e.logged.ping (if e.isDisposed then [] else [.ping]) :=
  logs_call fun t => t.ping.logs_logged _

theorem logs_execute (sql : String) :
    (e.execute sql).Logs (e.logged.execute sql) (if e.isDisposed then [] else [.execute sql]) :=
  logs_call fun t => (t.execute sql).logs_logged _

theorem logs_query (sql : String) :
    (e.query sql).Logs (e.logged.query sql) (if e.isDisposed then [] else [.query sql]) :=
  logs_call fun t => (t.query sql).logs_logged _

/-- A statement that is built from names is sent if the engine has not been disposed and every name is an identifier. -/
theorem logs_ask (names : List String) (sql : String) (read : Table → α) :
    (e.ask (Dialect.built names sql) read).Logs (e.logged.ask (Dialect.built names sql) read)
      (if e.isDisposed || !names.all Dialect.isIdentifier then [] else [.query sql]) := by
  unfold Dialect.built
  cases h : names.find? (!Dialect.isIdentifier ·) with
  | some name =>
    have hall : names.all Dialect.isIdentifier = false := by
      rw [Bool.eq_false_iff, Ne, List.all_eq_true, ← Dialect.find?_eq_none_iff, h]
      exact Option.some_ne_none name
    simp only [hall, Bool.not_false, Bool.or_true, if_true, ask_error]
    exact Call.logs_throw _
  | none =>
    have hall : names.all Dialect.isIdentifier = true := List.all_eq_true.2 (Dialect.find?_eq_none_iff.1 h)
    simp only [hall, Bool.not_true, Bool.or_false, ask_ok]
    exact (logs_query sql).read read

end Engine

end SeriesCatalog
