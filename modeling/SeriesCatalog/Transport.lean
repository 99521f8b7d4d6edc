/-
Transports: the three calls that reach a server. A call runs in a state of the server and yields a
result or an error together with the state after it; an error may change the state too. What a
transport has been asked for can be kept in a log.
-/
import SeriesCatalog.CatalogError
import SeriesCatalog.Table

namespace SeriesCatalog

/-- A call on a server whose state is `σ`. -/
abbrev Call (σ α : Type) := ExceptT CatalogError (StateM σ) α

namespace Call

variable {σ α β : Type}

/-- What a call yields in a state of the server, and the state after it. -/
def on (call : Call σ α) (s : σ) : Except CatalogError α × σ := call.run.run s

@[simp] theorem on_pure (a : α) (s : σ) : Call.on (pure a : Call σ α) s = (.ok a, s) := rfl

@[simp] theorem on_throw (e : CatalogError) (s : σ) :
    Call.on (throw e : Call σ α) s = (.error e, s) := rfl

@[simp] theorem on_lift (r : Except CatalogError α) (s : σ) :
    Call.on (liftM r : Call σ α) s = (r, s) := rfl

/-- The next call runs in the state that the first leaves behind, unless the first fails. -/
theorem on_bind (call : Call σ α) (next : α → Call σ β) (s : σ) :
    Call.on (call >>= next) s =
      match call.on s with
      | (.ok a, s) => (next a).on s
      | (.error e, s) => (.error e, s) := by
  simp only [Call.on, ExceptT.run_bind, StateT.run_bind]
  show (match (call.run.run s) with | (a, s') => _) = _
  rcases call.run.run s with ⟨r, s'⟩
  cases r <;> rfl

@[simp] theorem on_map (f : α → β) (call : Call σ α) (s : σ) :
    Call.on (f <$> call) s = ((call.on s).1.map f, (call.on s).2) := by
  rw [← bind_pure_comp, on_bind]
  rcases call.on s with ⟨r, s'⟩
  cases r <;> rfl

/-- Calls run one after another up to the first that fails. -/
theorem on_forM_cons (f : α → Call σ Unit) (a : α) (l : List α) (s : σ) :
    Call.on ((a :: l).forM f) s =
      match (f a).on s with
      | (.ok _, s) => Call.on (l.forM f) s
      | (.error e, s) => (.error e, s) := by
  rw [List.forM_eq_forM, List.forM_cons, Call.on_bind]
  rcases (f a).on s with ⟨r, s'⟩
  cases r <;> rfl

/-- The call with an entry made in the log before it. -/
def logged {Entry : Type} (call : Call σ α) (entry : Entry) : Call (σ × List Entry) α :=
  fun (s, log) =>
    let (result, s) := call.on s
    (result, s, log ++ [entry])

end Call

/-- The calls on a server: whether it answers, a statement without rows, and a statement with rows. -/
structure Transport (σ : Type) where
  ping : Call σ Unit
  execute : String → Call σ Unit
  query : String → Call σ Table

/-- What a transport is asked for. -/
inductive Sent
  | ping
  | execute (sql : String)
  | query (sql : String)
  deriving DecidableEq, Repr

/-- The entry of a log. -/
def Sent.text : Sent → String
  | ping => "ping: ping"
  | execute sql => "execute: " ++ sql
  | query sql => "query: " ++ sql

/-- The transport that keeps a log of everything it is asked for. -/
def Transport.logged {σ : Type} (t : Transport σ) : Transport (σ × List Sent) where
  ping := t.ping.logged Sent.ping
  execute sql := (t.execute sql).logged (Sent.execute sql)
  query sql := (t.query sql).logged (Sent.query sql)

end SeriesCatalog
