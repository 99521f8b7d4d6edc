/-
Variables of the environment that override members of settings, and the reasons for which settings are
turned down. Variables are read in a fixed order; the first whose value does not fit ends the reading,
and what the earlier ones set stays.
-/
import SeriesCatalog.Number.Bounded

namespace SeriesCatalog.Settings

/-- Why settings are turned down: the file cannot be read as text, the text is no TOML or holds a
value of the wrong kind, or a variable of the environment has a value out of its member's range. -/
inductive Fault
  | unreadable
  | invalidToml
  | invalidValue (member : String) (value : String)
  deriving DecidableEq, Repr

/-- The reason in words. What the system says of the file, or the reader of the text, would follow the
first two and is left out. -/
def Fault.message : Fault → String
  | unreadable => "Failed to read config file"
  | invalidToml => "Invalid TOML"
  | invalidValue member value => "Invalid " ++ member ++ ": " ++ value

/-- A variable: its name, the member it overrides, and the settings with a value taken over, if the
value fits the member. -/
structure Variable (σ : Type) where
  name : String
  member : String
  set : String → σ → Option σ

namespace Variable

variable {σ τ : Type}

/-- A variable whose value is any text. -/
def text (name member : String) (set : String → σ → σ) : Variable σ :=
  ⟨name, member, fun value s => some (set value s)⟩

/-- A variable whose value is a number of 16 bits. -/
def port (name member : String) (set : UInt16 → σ → σ) : Variable σ :=
  ⟨name, member, fun value s =>
    (Bounded.read Bounded.max16 value.toList).toOption.map fun n => set (UInt16.ofNat n) s⟩

/-- A variable whose value is a number of 64 bits. -/
def amount (name member : String) (set : UInt64 → σ → σ) : Variable σ :=
  ⟨name, member, fun value s =>
    (Bounded.read Bounded.max64 value.toList).toOption.map fun n => set (UInt64.ofNat n) s⟩

end Variable

/-- The settings with every variable taken over that the environment gives, and the fault that ended
the reading, if there was one. -/
def override {σ : Type} (given : String → Option String) :
    List (Variable σ) → σ → Except Fault Unit × σ
  | [], s => (.ok (), s)
  | v :: vs, s =>
    match given v.name with
    | none => override given vs s
    | some value =>
      match v.set value s with
      | some s => override given vs s
      | none => (.error (.invalidValue v.member value), s)

end SeriesCatalog.Settings
