/-
Engines and sessions. An engine holds the transport to one server until it is disposed; from then on
every call is refused and nothing reaches the server. A session counts the statements that an engine
has completed in it.
-/
import SeriesCatalog.Registry
import SeriesCatalog.Transport.Rest
import SeriesCatalog.Text.Quoted

namespace SeriesCatalog

/-- An engine: what it is connected to, its dialect, and its transport until it is disposed. -/
structure Engine (σ : Type) where
  target : String
  dialect : String
  transport : Option (Transport σ)

namespace Engine

variable {σ : Type}

/-! ## Connecting -/

/-- The engine for the server that a URL names, by the driver of its scheme. Nothing is sent. -/
def connect (registry : Registry) (url : ServerUrl) (settings : Settings.Engine)
    (link : Http.Link σ) : Except CatalogError (Engine σ) := do
  match ← registry.resolve url.scheme with
  | .rest =>
    return ⟨url.redacted, Driver.rest.dialect, some ((RestClient.ofUrl url settings).transport link)⟩

/-- Reads a URL and connects to the server that it names. -/
def ofUrl (registry : Registry) (url : String) (settings : Settings.Engine)
    (link : ServerUrl → Http.Link σ) : Except CatalogError (Engine σ) :=
  match ServerUrl.parse url with
  | .ok url => connect registry url settings (link url)
  | .error fault => .error (.invalidUrl fault)

/-- The engine over a transport that is not made from a URL. -/
def ofTransport (t : Transport σ) : Engine σ := ⟨"custom transport", Dialect.name, some t⟩

/-! ## Disposing -/

/-- The engine without its transport. -/
def dispose (e : Engine σ) : Engine σ := { e with transport := none }

/-- The engine has been disposed. -/
def isDisposed (e : Engine σ) : Bool := e.transport.isNone

/-- The engine as diagnostics show it. -/
def shown (e : Engine σ) : String :=
  "Engine \x7b target: " ++ Quoted.text e.target ++ ", disposed: " ++
    (if e.isDisposed then "true" else "false") ++ " \x7d"

@[simp] theorem transport_dispose (e : Engine σ) : e.dispose.transport = none := rfl

theorem dispose_dispose (e : Engine σ) : e.dispose.dispose = e.dispose := rfl

/-! ## Calls -/

/-- A call on the transport, refused if the engine has been disposed. -/
def call {α : Type} (e : Engine σ) (f : Transport σ → Call σ α) : Call σ α :=
  match e.transport with
  | some t => f t
  | none => throw .disposed

/-- Asks whether the server answers. -/
def ping (e : Engine σ) : Call σ Unit := e.call (·.ping)

/-- Runs a statement without rows. -/
def execute (e : Engine σ) (sql : String) : Call σ Unit := e.call (·.execute sql)

/-- Runs a statement and returns its rows. -/
def query (e : Engine σ) (sql : String) : Call σ Table := e.call (·.query sql)

end Engine

/-- A session, with the number of statements completed in it. -/
structure Session where
  executed : Nat := 0
  deriving DecidableEq, Repr, Inhabited

namespace Session

variable {σ α : Type}

/-- A new session of an engine that has not been disposed. -/
def start (e : Engine σ) : Except CatalogError Session :=
  if e.isDisposed then .error .disposed else .ok {}

/-- The session after a call that ended so: a success counts, an error does not. -/
def after (s : Session) : Except CatalogError α → Session
  | .ok _ => ⟨s.executed + 1⟩
  | .error _ => s

end Session

end SeriesCatalog
