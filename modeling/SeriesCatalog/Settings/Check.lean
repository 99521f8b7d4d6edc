/-
Settings of an acceptance run: the server image and its ports, the credentials and the scheme of the
connection, how long the server may take to start and how it says that it has, and the settings of
the engine.
-/
import SeriesCatalog.Settings.Engine
import SeriesCatalog.CatalogError

namespace SeriesCatalog.Settings

/-- Settings of an acceptance run; the time is in seconds. -/
structure Check where
  image : String := "iotdb"
  tag : String := "dev"
  nativePort : UInt16 := 6667
  restPort : UInt16 := 18080
  user : String := "root"
  password : String := "IoTDB@2011"
  scheme : String := "iotdb"
  startupTimeout : UInt64 := 180
  readyMessage : String := "Congratulations, IoTDB DataNode is set up successfully"
  engine : Engine := {}
  deriving DecidableEq, Repr, Inhabited

namespace Check

/-- The settings that the entries of a table give. Unknown entries are passed over. -/
def ofEntries? (entries : Toml.Entries) : Option Check := do
  let default : Check := {}
  return {
    image := ← member? entries "image" text? default.image
    tag := ← member? entries "tag" text? default.tag
    nativePort := ← member? entries "native_port" port? default.nativePort
    restPort := ← member? entries "rest_port" port? default.restPort
    user := ← member? entries "user" text? default.user
    password := ← member? entries "password" text? default.password
    scheme := ← member? entries "scheme" text? default.scheme
    startupTimeout := ← member? entries "startup_timeout_secs" amount? default.startupTimeout
    readyMessage := ← member? entries "ready_message" text? default.readyMessage
    engine := ← member? entries "engine" Engine.ofToml? default.engine }

/-- The settings that a TOML text gives. -/
def ofText (s : String) : Except Fault Check :=
  match (Toml.ofText? s.toList).bind ofEntries? with
  | some settings => .ok settings
  | none => .error .invalidToml

/-- The variables that override the settings, in the order in which they are read. -/
def overrides : List (Variable Check) :=
  [.text "IOTDB_IT_IMAGE" "image" fun text s => { s with image := text },
    .text "IOTDB_IT_TAG" "tag" fun text s => { s with tag := text },
    .text "IOTDB_IT_USER" "user" fun text s => { s with user := text },
    .text "IOTDB_IT_PASSWORD" "password" fun text s => { s with password := text },
    .text "IOTDB_IT_SCHEME" "scheme" fun text s => { s with scheme := text },
    .port "IOTDB_IT_NATIVE_PORT" "native_port" fun n s => { s with nativePort := n },
    .port "IOTDB_IT_REST_PORT" "rest_port" fun n s => { s with restPort := n },
    .amount "IOTDB_IT_STARTUP_TIMEOUT_SECS" "startup_timeout_secs" fun n s =>
      { s with startupTimeout := n }]

/-- The settings with the variables of the run taken over, but not those of the engine. -/
def overridden (s : Check) (given : String → Option String) : Except Fault Unit × Check :=
  override given overrides s

/-- The settings under an environment: first the variables of the run, then those of the engine. -/
def fromEnvironment (s : Check) (given : String → Option String) : Except CheckError Unit × Check :=
  match s.overridden given with
  | (.error fault, s) => (.error (.settings fault), s)
  | (.ok (), s) =>
    match s.engine.fromEnvironment given with
    | (.ok (), engine) => (.ok (), { s with engine := engine })
    | (.error fault, engine) => (.error (.catalog (.settings fault)), { s with engine := engine })

/-- The URL of a server at this place. -/
def urlAt (s : Check) (host : String) (port : UInt16) : ServerUrl :=
  ⟨s.scheme, s.user, s.password, host, port⟩

end Check

end SeriesCatalog.Settings
