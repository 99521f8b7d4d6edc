/-
Digits and their values, decimal and hexadecimal, and the numbers that digits make up in any base, the
highest digit first.
-/
namespace SeriesCatalog

/-! ## Numbers from digits -/

namespace Digits

/-- The value of an ASCII digit. -/
def digit? (c : Char) : Option Nat := if c.isDigit then some (c.toNat - '0'.toNat) else none

/-- The number with these digits. -/
def number (base : Nat) (ds : List Nat) : Nat := ds.foldl (fun n d => n * base + d) 0

@[simp] theorem number_nil (base : Nat) : number base [] = 0 := rfl

/-- A further digit moves the others up by one place. -/
theorem number_concat (base : Nat) (ds : List Nat) (d : Nat) :
    number base (ds ++ [d]) = number base ds * base + d := by
  rw [number, List.foldl_append, List.foldl_cons, List.foldl_nil, ← number]

end Digits

/-! ## Hexadecimal digits -/

namespace Hex

/-- The value of a hexadecimal digit in either case. -/
def digit? (c : Char) : Option Nat :=
  let n := c.toNat
  if '0'.toNat ≤ n ∧ n ≤ '9'.toNat then some (n - '0'.toNat)
  else if 'a'.toNat ≤ n ∧ n ≤ 'f'.toNat then some (n - 'a'.toNat + 10)
  else if 'A'.toNat ≤ n ∧ n ≤ 'F'.toNat then some (n - 'A'.toNat + 10)
  else none

/-- The digit of a value below 16, in capitals. -/
def capital (n : Nat) : Char := Char.ofNat (if n < 10 then '0'.toNat + n else 'A'.toNat + (n - 10))

/-- The digit of a value below 16, in small letters. -/
def small (n : Nat) : Char := Char.ofNat (if n < 10 then '0'.toNat + n else 'a'.toNat + (n - 10))

theorem digit?_capital : ∀ n, n < 16 → digit? (capital n) = some n := by decide

theorem digit?_small : ∀ n, n < 16 → digit? (small n) = some n := by decide

end Hex

end SeriesCatalog
