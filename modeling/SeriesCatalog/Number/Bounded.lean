/-
Unsigned decimal numerals below a bound: ports, time-outs and sizes. A numeral is an optional plus
sign followed by at least one ASCII digit. Digits are taken from the left, and the first trouble
decides: a character that is no digit, or a value past the bound.
-/
import SeriesCatalog.Text.Hex

namespace SeriesCatalog.Bounded

/-- Why a text is no numeral of the range. -/
inductive Fault
  | empty
  | invalidDigit
  | tooLarge
  deriving DecidableEq, Repr

/-- The fault in words. -/
def Fault.message : Fault → String
  | empty => "cannot parse integer from empty string"
  | invalidDigit => "invalid digit found in string"
  | tooLarge => "number too large to fit in target type"

/-- The number read so far, continued by these digits, as long as it stays at most `max`. -/
def readDigits (max : Nat) : Nat → List Char → Except Fault Nat
  | value, [] => .ok value
  | value, c :: cs =>
    match Digits.digit? c with
    | none => .error .invalidDigit
    | some d => if value * 10 + d ≤ max then readDigits max (value * 10 + d) cs else .error .tooLarge

/-- The number at most `max` that the text spells. -/
def read (max : Nat) : List Char → Except Fault Nat
  | [] => .error .empty
  | ['+'] => .error .invalidDigit
  | '+' :: cs => readDigits max 0 cs
  | cs => readDigits max 0 cs

/-- The largest 16-bit number. -/
def max16 : Nat := 0xffff

/-- The largest 64-bit number. -/
def max64 : Nat := 0xffffffffffffffff

/-- The number is one of 64 bits with a sign. -/
def isSigned64 (n : Int) : Bool := -0x8000000000000000 ≤ n && n < 0x8000000000000000

example : read max16 "+0080".toList = .ok 80 ∧ read max16 "65536x".toList = .error .tooLarge ∧
    read max16 "6553x".toList = .error .invalidDigit ∧ read max16 "-1".toList = .error .invalidDigit :=
  ⟨rfl, rfl, rfl, rfl⟩

theorem readDigits_le {max value n : Nat} {cs : List Char} (h : readDigits max value cs = .ok n)
    (hv : value ≤ max) : n ≤ max := by
  induction cs generalizing value with
  | nil => rw [readDigits, Except.ok.injEq] at h; exact h ▸ hv
  | cons c cs ih =>
    rw [readDigits] at h
    split at h
    · cases h
    · split at h
      · exact ih h ‹_›
      · cases h

/-- What is read is in range. -/
theorem read_le {max n : Nat} {cs : List Char} (h : read max cs = .ok n) : n ≤ max := by
  unfold read at h
  split at h
  · cases h
  · cases h
  · exact readDigits_le h (Nat.zero_le _)
  · exact readDigits_le h (Nat.zero_le _)

end SeriesCatalog.Bounded
