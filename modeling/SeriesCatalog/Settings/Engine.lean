/-
Settings of an engine: how long a request and its connection may take, how many idle connections are
kept, and where the REST interface lies. Each has a default, which TOML text and then variables of
the environment override.
-/
import SeriesCatalog.Settings.Variable
import SeriesCatalog.Toml.Reader
import SeriesCatalog.Text.Utf8

namespace SeriesCatalog

namespace Settings

/-- Settings of an engine; times are in milliseconds. -/
structure Engine where
  requestTimeout : UInt64 := 10000
  connectTimeout : UInt64 := 3000
  idleConnections : UInt64 := 4
  apiPrefix : String := "/rest/v1"
  deriving DecidableEq, Repr, Inhabited

/-! ## Members of TOML tables -/

/-- The member of this name, or its default if there is none; none if it does not fit. -/
def member? {α : Type} (entries : Toml.Entries) (name : String) (fit : Toml → Option α)
    (default : α) : Option α :=
  match entries.lookup name with
  | none => some default
  | some v => fit v

/-- A text. -/
def text? : Toml → Option String
  | .string s => some s
  | _ => none

/-- A whole number between zero and a bound. -/
def bounded? (max : Nat) : Toml → Option Nat
  | .whole (.ofNat n) => if n ≤ max then some n else none
  | _ => none

/-- A number of 16 bits. -/
def port? (v : Toml) : Option UInt16 := (bounded? Bounded.max16 v).map UInt16.ofNat

/-- A number of 64 bits. -/
def amount? (v : Toml) : Option UInt64 := (bounded? Bounded.max64 v).map UInt64.ofNat

namespace Engine

/-- The names of the members, in the order in which an array gives them. -/
def members : List String :=
  ["request_timeout_ms", "connect_timeout_ms", "pool_max_idle_per_host", "api_prefix"]

/-- The settings that the entries of a table give. Unknown entries are passed over. -/
def ofEntries? (entries : Toml.Entries) : Option Engine := do
  let default : Engine := {}
  return {
    requestTimeout := ← member? entries "request_timeout_ms" amount? default.requestTimeout
    connectTimeout := ← member? entries "connect_timeout_ms" amount? default.connectTimeout
    idleConnections := ← member? entries "pool_max_idle_per_host" amount? default.idleConnections
    apiPrefix := ← member? entries "api_prefix" text? default.apiPrefix }

/-- The settings that a value gives: a table, or an array of the members in their order, which may
end early. A date has none of the members and gives the defaults. -/
def ofToml? : Toml → Option Engine
  | .table _ entries => ofEntries? entries
  | .array items => ofEntries? (members.zip items)
  | .moment _ => some {}
  | _ => none

/-- The settings that a TOML text gives. -/
def ofText (s : String) : Except Fault Engine :=
  match (Toml.ofText? s.toList).bind ofEntries? with
  | some settings => .ok settings
  | none => .error .invalidToml

/-- The variables that override the settings, in the order in which they are read. -/
def overrides : List (Variable Engine) :=
  [.amount "IOTDB_REQUEST_TIMEOUT_MS" "request_timeout_ms" fun n s => { s with requestTimeout := n },
    .amount "IOTDB_CONNECT_TIMEOUT_MS" "connect_timeout_ms" fun n s => { s with connectTimeout := n },
    .amount "IOTDB_POOL_MAX_IDLE_PER_HOST" "pool_max_idle_per_host" fun n s =>
      { s with idleConnections := n },
    .text "IOTDB_API_PREFIX" "api_prefix" fun text s => { s with apiPrefix := text }]

/-- The settings under an environment. -/
def fromEnvironment (s : Engine) (given : String → Option String) : Except Fault Unit × Engine :=
  override given overrides s

end Engine

/-- The text of a file with these bytes; none of a file that is missing. -/
def fileText (content : Option (List UInt8)) : Except Fault String :=
  match content.map Utf8.decode with
  | some (.ok cs) => .ok (String.ofList cs)
  | some (.error _) | none => .error .unreadable

end Settings

end SeriesCatalog
