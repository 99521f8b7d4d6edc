/-
The log of a program. What it does is told in events, each with a level, the part of the program that
it comes from, and a message. A filter lets some of them through, and a writer makes a line of each.
A text may name the filter; where there is none, or it names no filter, events up to a level are let
through. The libraries that a program uses log as well, and their events stand anywhere among its own.
-/
import SeriesCatalog.Text.Cut

namespace SeriesCatalog.Log

/-! ## Events -/

/-- How much an event matters, what matters most first. -/
inductive Level
  | error
  | warn
  | info
  | debug
  | trace
  deriving DecidableEq, Repr

/-- The name of a level. -/
def Level.name : Level → String
  | error => "error"
  | warn => "warn"
  | info => "info"
  | debug => "debug"
  | trace => "trace"

/-- The levels that matter less have larger numbers. -/
def Level.rank : Level → Nat
  | error => 0
  | warn => 1
  | info => 2
  | debug => 3
  | trace => 4

/-- Something that is logged. -/
structure Event where
  level : Level
  source : String
  message : String
  deriving DecidableEq, Repr

/-- What is let through. -/
abbrev Filter := Event → Bool

/-- Events up to a level. -/
def Filter.upTo (level : Level) : Filter := fun e => e.level.rank ≤ level.rank

/-! ## Writers -/

/-- How events become text. A line may tell the time, so it depends on how many events came before.
The events of libraries are given by the number of the program's own events before them; those behind
the last number stand behind everything that the program prints. -/
structure Writer where
  filter? : String → Option Filter
  line : Nat → Event → String
  others : Nat → List Event := fun _ => []

namespace Writer

/-- The filter that a text names; without one the level depends on the wish to hear more. -/
def filter (w : Writer) (text : Option String) (verbose : Bool) : Filter :=
  (text.bind w.filter?).getD (.upTo (if verbose then .debug else .info))

/-- The program's events among those of libraries, from a place on. -/
def mixed (w : Writer) : Nat → List Event → List Event
  | n, [] => w.others n
  | n, e :: events => w.others n ++ e :: w.mixed (n + 1) events

/-- The lines of events that are let through, where so many came before. -/
def lines (w : Writer) (filter : Filter) : Nat → List Event → String
  | _, [] => ""
  | n, e :: events => (if filter e then w.line n e else "") ++ w.lines filter (n + 1) events

/-- The writer that writes nothing. -/
def silent : Writer := ⟨fun _ => none, fun _ _ => "", fun _ => []⟩

/-- The writer that reads the name of a level or the word that turns the log off, and tells no time. -/
def plain : Writer where
  filter? text :=
    let name := String.ofList (Text.lower text.toList)
    if name = "off" then some fun _ => false
    else ([.error, .warn, .info, .debug, .trace].find? (Level.name · = name)).map Filter.upTo
  line _ e := String.ofList (Text.upper e.level.name.toList) ++ " " ++ e.source ++ ": " ++ e.message ++ "\n"

example : plain.lines (plain.filter (some "Info") true) 0 [⟨.debug, "a", "1"⟩, ⟨.warn, "b", "2"⟩] = "WARN b: 2\n" := by
  decide +kernel
example : plain.lines (plain.filter (some "?") true) 0 [⟨.debug, "a", "1"⟩] = "DEBUG a: 1\n" := by
  decide +kernel

end Writer

end SeriesCatalog.Log
