/-
A client at work: an engine and the sessions opened on it, numbered in the order of their opening.
Every operation runs against the server and yields an answer or an error. Disposing the engine leaves
its sessions open, but their calls are refused from then on.
-/
import SeriesCatalog.Inspector

namespace SeriesCatalog

/-- An engine and its sessions; the place of a session that was closed stays empty. -/
structure Client (σ : Type) where
  engine : Engine σ
  sessions : List (Option Session) := []

namespace Client

/-- What a client may do. Sessions go by their number. -/
inductive Operation
  | openSession
  | execute (session : Nat) (sql : String)
  | query (session : Nat) (sql : String)
  | closeSession (session : Nat)
  | ping
  | dispose
  | schemaNames
  | tableNames (schema : String)
  | columns (table schema : String)
  | hasSchema (schema : String)
  | hasTable (table schema : String)
  | constraints (table schema : String)
  deriving DecidableEq, Repr

/-- What an operation answers. -/
inductive Answer
  | opened (session : Nat)
  | done
  | rows (t : Table)
  | closed
  | disposed
  | names (l : List String)
  | columns (l : List Column)
  | truth (b : Bool)
  | constraints (primaryKey foreignKeys indexes : List String)
  deriving Repr

/-- Why an operation has no answer: its session is not open, or a call failed. -/
inductive Refusal
  | noSession
  | failed (error : CatalogError)
  deriving DecidableEq, Repr

variable {σ α : Type}

/-- The session of this number, if it is open. -/
def session? (c : Client σ) (number : Nat) : Option Session := c.sessions[number]?.join

/-- The number of the session opened last. -/
def latest (c : Client σ) : Nat := c.sessions.length - 1

/-- The statements completed in a session, if it is open. -/
def executed? (c : Client σ) (number : Nat) : Option Nat := (c.session? number).map Session.executed

/-- What an operation yields: its answer, the client after it and the state of the server. -/
abbrev Step (σ : Type) := Except Refusal Answer × Client σ × σ

/-- An operation of the engine alone. -/
def onEngine (c : Client σ) (call : Call σ α) (answer : α → Answer) (s : σ) : Step σ :=
  match call.on s with
  | (.ok a, s) => (.ok (answer a), c, s)
  | (.error e, s) => (.error (.failed e), c, s)

/-- An operation of a session, which keeps count of it. -/
def onSession (c : Client σ) (number : Nat) (call : Call σ α) (answer : α → Answer) (s : σ) :
    Step σ :=
  match c.session? number with
  | none => (.error .noSession, c, s)
  | some session =>
    let (result, s) := call.on s
    let c := { c with sessions := c.sessions.set number (some (session.after result)) }
    match result with
    | .ok a => (.ok (answer a), c, s)
    | .error e => (.error (.failed e), c, s)

/-- One operation. -/
def step (c : Client σ) (op : Operation) (s : σ) : Step σ :=
  match op with
  | .openSession =>
    match Session.start c.engine with
    | .ok session =>
      (.ok (.opened c.sessions.length), { c with sessions := c.sessions ++ [some session] }, s)
    | .error e => (.error (.failed e), c, s)
  | .execute number sql => c.onSession number (c.engine.execute sql) (fun _ => .done) s
  | .query number sql => c.onSession number (c.engine.query sql) .rows s
  | .closeSession number =>
    match c.session? number with
    | none => (.error .noSession, c, s)
    | some _ => (.ok .closed, { c with sessions := c.sessions.set number none }, s)
  | .ping => c.onEngine c.engine.ping (fun _ => .done) s
  | .dispose => (.ok .disposed, { c with engine := c.engine.dispose }, s)
  | .schemaNames => c.onEngine c.engine.schemaNames .names s
  | .tableNames schema => c.onEngine (c.engine.tableNames schema) .names s
  | .columns table schema => c.onEngine (c.engine.columns table schema) .columns s
  | .hasSchema schema => c.onEngine (c.engine.hasSchema schema) .truth s
  | .hasTable table schema => c.onEngine (c.engine.hasTable table schema) .truth s
  | .constraints table schema =>
    (.ok (.constraints (c.engine.primaryKey table schema) (c.engine.foreignKeys table schema)
      (c.engine.indexes table schema)), c, s)

/-- Operations one after another: what each yields, in their order. -/
def run (c : Client σ) (s : σ) : List Operation → List (Step σ)
  | [] => []
  | op :: ops =>
    let (result, c, s) := c.step op s
    (result, c, s) :: run c s ops

end Client

end SeriesCatalog
