/-
The program: it runs the acceptance checks against the server that `--url` names. It has no network
of its own, so every server counts as out of reach, and the lines of its log tell no time.
-/
import SeriesCatalog.CommandLine

open SeriesCatalog

/-- The bytes of a file, if it can be read. -/
def readFile? (path : String) : IO (Option (List UInt8)) := do
  match ← (IO.FS.readBinFile path).toBaseIO with
  | .ok bytes => return some bytes.toList
  | .error _ => return none

/-- The value of every variable that the program looks at. -/
def readVariables : IO (List (String × String)) := do
  let names :=
    "RUST_LOG" :: "TOKIO_WORKER_THREADS" ::
      (Settings.Check.overrides.map (·.name) ++ Settings.Engine.overrides.map (·.name))
  names.filterMapM fun name => do
    return (← IO.getEnv name).map fun value => (name, value)

def main (args : List String) : IO UInt32 := do
  let content ← match CommandLine.parse? args with
    | some (.check ⟨some path, _, _, _, _⟩) => readFile? path
    | _ => pure none
  let given ← readVariables
  let around : CommandLine.Surroundings Unit :=
    { file := fun _ => content
      environment := (List.lookup · given)
      link := fun _ => Http.Link.broken
      log := .plain }
  let (ending, ()) := (CommandLine.run around args).run ()
  IO.print ending.output
  return UInt32.ofNat ending.exitCode
