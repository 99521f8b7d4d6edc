/-
The command line of the acceptance run: its arguments, and what it prints and exits with. Settings
come from a file, then from the environment, then from the arguments. Nothing is sent before all of
them, the URL and its scheme have been accepted. The log stands on the standard output as well, around
the report: as much of it as a variable of the environment lets through, or without that variable what is
informative, and what helps to find errors only where the arguments wish to hear more.
-/
import SeriesCatalog.Check

namespace SeriesCatalog.CommandLine

/-! ## Arguments -/

/-- An option that takes a value. -/
inductive Name
  | config
  | image
  | tag
  | url
  deriving DecidableEq, Repr

/-- What the arguments say. -/
structure Arguments where
  config : Option String := none
  image : Option String := none
  tag : Option String := none
  url : Option String := none
  verbose : Bool := false
  deriving DecidableEq, Repr, Inhabited

namespace Arguments

/-- The arguments with a value given to an option. An option is given once, and a file has a name. -/
def give? (a : Arguments) (name : Name) (value : String) : Option Arguments :=
  match name with
  | .config => if a.config.isSome ∨ value = "" then none else some { a with config := some value }
  | .image => if a.image.isSome then none else some { a with image := some value }
  | .tag => if a.tag.isSome then none else some { a with tag := some value }
  | .url => if a.url.isSome then none else some { a with url := some value }

/-- The arguments with the wish to hear more, which is said once. -/
def raise? (a : Arguments) : Option Arguments :=
  if a.verbose then none else some { a with verbose := true }

end Arguments

/-- What an argument says at its end: nothing more, an option, with its value or without, or a question
for information about the program. -/
inductive Tail
  | nothing
  | option (name : Name) (value : Option String)
  | information
  deriving DecidableEq, Repr

/-- What one argument adds: it ends the options, or gives so many wishes to hear more and then
something else. -/
inductive Word
  | separator
  | given (wishes : Nat) (tail : Tail)
  deriving DecidableEq, Repr

/-- The option of a long name. -/
def longWord? (name : List Char) (value : Option String) : Option Word :=
  if name = "config".toList then some (.given 0 (.option .config value))
  else if name = "image".toList then some (.given 0 (.option .image value))
  else if name = "tag".toList then some (.given 0 (.option .tag value))
  else if name = "url".toList then some (.given 0 (.option .url value))
  else if value.isSome then none
  else if name = "verbose".toList then some (.given 1 .nothing)
  else if name = "help".toList ∨ name = "version".toList then some (.given 0 .information)
  else none

/-- The options of short names in one argument. What follows the name of an option with a value is
the value, with or without an equals sign before it. -/
def shortWord? (wishes : Nat) : List Char → Option Word
  | [] => some (.given wishes .nothing)
  | 'v' :: cs => shortWord? (wishes + 1) cs
  | 'c' :: [] => some (.given wishes (.option .config none))
  | 'c' :: '=' :: value => some (.given wishes (.option .config (some (String.ofList value))))
  | 'c' :: value => some (.given wishes (.option .config (some (String.ofList value))))
  | 'h' :: _ | 'V' :: _ => some (.given wishes .information)
  | _ => none

/-- What an argument adds; none if it is unknown or stands alone. -/
def word? (arg : String) : Option Word :=
  match arg.toList with
  | ['-', '-'] => some .separator
  | '-' :: '-' :: cs =>
    match Text.cutFirst ['='] cs with
    | some (name, value) => longWord? name (some (String.ofList value))
    | none => longWord? cs none
  | '-' :: c :: cs => shortWord? 0 (c :: cs)
  | _ => none

/-- The argument may be the value of the option before it: it does not look like an option. -/
def isValue (arg : String) : Bool :=
  match arg.toList with
  | '-' :: _ :: _ => false
  | _ => true

/-- What the program is asked to do. -/
inductive Command
  | information
  | check (a : Arguments)
  deriving DecidableEq, Repr

/-- The arguments with so many wishes to hear more. -/
def raised? (a : Arguments) (wishes : Nat) : Option Arguments :=
  (List.range wishes).foldlM (fun a _ => a.raise?) a

/-- Reads arguments behind those already read; none if one of them is wrong. A question for information
is answered as soon as it is reached. -/
def parseFrom? (a : Arguments) : List String → Option Command
  | [] => some (.check a)
  | arg :: args =>
    match word? arg with
    | none => none
    | some .separator => if args.isEmpty then some (.check a) else none
    | some (.given wishes tail) =>
      match raised? a wishes, tail, args with
      | none, _, _ => none
      | some a, .nothing, args => parseFrom? a args
      | some _, .information, _ => some .information
      | some a, .option name (some value), args => (a.give? name value).bind (parseFrom? · args)
      | some _, .option _ none, [] => none
      | some a, .option name none, value :: args =>
        if isValue value then (a.give? name value).bind (parseFrom? · args) else none

/-- Reads the arguments. -/
def parse? (args : List String) : Option Command := parseFrom? {} args

example : parse? ["-vc=x", "--url", "-", "--image="] =
    some (.check ⟨some "x", some "", none, some "-", true⟩) := by decide +kernel
example : parse? ["--url", "-c"] = none ∧ parse? ["-vvh"] = none ∧ parse? ["x"] = none := by
  decide +kernel
example : parse? ["-vh", "-v"] = some .information := by decide +kernel

/-! ## Surroundings -/

/-- What the program finds around it: files, variables of the environment, the way to the server that a
URL names, and what becomes of its log. -/
structure Surroundings (σ : Type) where
  file : String → Option (List UInt8)
  environment : String → Option String
  link : ServerUrl → Http.Link σ
  log : Log.Writer := .silent

namespace Surroundings

variable {σ : Type}

/-- The program starts: the number of threads it is to use is left open, or is a number and not zero. -/
def starts (around : Surroundings σ) : Bool :=
  match around.environment "TOKIO_WORKER_THREADS" with
  | none => true
  | some text =>
    match Bounded.read Bounded.max64 text.toList with
    | .ok n => n != 0
    | .error _ => false

/-- What of the log is let through. -/
def filter (around : Surroundings σ) (a : Arguments) : Log.Filter :=
  around.log.filter (around.environment "RUST_LOG") a.verbose

/-- The log of these events in front of the report. -/
def logBefore (around : Surroundings σ) (a : Arguments) (events : List Log.Event) : String :=
  around.log.lines (around.filter a) 0 (around.log.mixed 0 events)

/-- What libraries log behind the report. -/
def logAfter (around : Surroundings σ) (a : Arguments) (events : List Log.Event) : String :=
  around.log.lines (around.filter a) (around.log.mixed 0 events).length (around.log.others (events.length + 1))

end Surroundings

/-! ## Running -/

/-- How the program ends: what it exits with and what it prints, its own events among what it logs. -/
structure Ending where
  exitCode : Nat
  events : List Log.Event := []
  logBefore : String := ""
  report : String := ""
  logAfter : String := ""
  deriving DecidableEq, Repr, Inhabited

/-- Everything that stands on the standard output. The log is written there too. -/
def Ending.output (e : Ending) : String := e.logBefore ++ e.report ++ e.logAfter

variable {σ : Type}

/-- The settings of a run: those of the file under the environment, then the image and the tag that
the arguments give. -/
def settings (around : Surroundings σ) (a : Arguments) : Except CheckError Settings.Check := do
  let loaded ← match a.config with
    | none => pure {}
    | some path =>
      (Settings.fileText (around.file path) >>= Settings.Check.ofText).mapError CheckError.settings
  let (result, settings) := loaded.fromEnvironment around.environment
  result
  return { settings with
    image := a.image.getD settings.image
    tag := a.tag.getD settings.tag }

/-- The URL of the server to check. -/
def url (a : Arguments) : Except CheckError (Option ServerUrl) :=
  match a.url with
  | none => .ok none
  | some text =>
    match ServerUrl.parse text with
    | .ok u => .ok (some u)
    | .error fault => .error (.catalog (.invalidUrl fault))

/-- The server of a URL is about to be checked. -/
def running (u : ServerUrl) : Log.Event := ⟨.info, "dialect_check", "Running against " ++ u.redacted⟩

/-- The ending of a run that logged these events. -/
def ended (around : Surroundings σ) (a : Arguments) (exitCode : Nat) (report : String) (events : List Log.Event) :
    Ending where
  exitCode := exitCode
  events := events
  logBefore := around.logBefore a events
  report := report
  logAfter := around.logAfter a events

/-- Runs the checks that the arguments ask for. An error is not told on the standard output. Without a URL
there is no server to check. -/
def check (around : Surroundings σ) (a : Arguments) : StateM σ Ending := do
  match settings around a, url a with
  | .error _, _ | _, .error _ => return ended around a 1 "" []
  | _, .ok none => return { exitCode := 1 }
  | .ok settings, .ok (some u) =>
    let (result, events) ← Check.logged settings .withDefaults u (around.link u)
    match result with
    | .error _ => return ended around a 1 "" (running u :: events)
    | .ok report => return ended around a report.exitCode report.shown (running u :: events)

/-- Runs the program. If it cannot start, nothing is looked at. -/
def run (around : Surroundings σ) (args : List String) : StateM σ Ending :=
  if around.starts then
    match parse? args with
    | none => pure { exitCode := 2 }
    | some .information => pure { exitCode := 0 }
    | some (.check a) => check around a
  else pure { exitCode := 101 }

end SeriesCatalog.CommandLine
