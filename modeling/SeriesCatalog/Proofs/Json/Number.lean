/-
Whole numbers read back. The decimal digits of a number spell it, and no zero stands before them, so
the text of a whole number is a numeral; if the number has 64 bits, with a sign or without, its
numeral has the number itself for its value.
-/
import SeriesCatalog.Json.Reader
import Mathlib.Data.List.TakeWhile
import Mathlib.Tactic

namespace SeriesCatalog.Json

/-! ## Digits -/

theorem digit?_digitChar {d : Nat} (h : d < 10) : Digits.digit? d.digitChar = some d := by
  unfold Digits.digit?
  rw [if_pos (by simp [Nat.isDigit_digitChar, h]), Nat.toNat_digitChar_of_lt_ten h]
  simp

theorem digits_concat {cs : List Char} {d : Nat} (h : d < 10) :
    digits (cs ++ [d.digitChar]) = digits cs ++ [d] := by
  simp [digits, digit?_digitChar h]

/-- The digits of a number are those of its tenth and the last one. -/
theorem toDigits_of_le {n : Nat} (h : 10 ≤ n) :
    Nat.toDigits 10 n = Nat.toDigits 10 (n / 10) ++ [(n % 10).digitChar] :=
  Nat.toDigits_of_base_le (by decide) h

/-- The decimal digits of a number spell it. -/
theorem number_digits_toDigits (n : Nat) : Digits.number 10 (digits (Nat.toDigits 10 n)) = n := by
  induction n using Nat.strongRecOn with
  | ind n ih =>
    rcases lt_or_ge n 10 with h | h
    · rw [Nat.toDigits_of_lt_base h]
      simp [digits, digit?_digitChar h, Digits.number]
    · rw [toDigits_of_le h, digits_concat (Nat.mod_lt n (by decide)), Digits.number_concat,
        ih (n / 10) (by omega)]
      omega

theorem isDigit_of_mem_toDigits {n : Nat} {c : Char} (h : c ∈ Nat.toDigits 10 n) : c.isDigit = true :=
  Nat.isDigit_of_mem_toDigits (by decide) (by decide) h

/-- No zero stands before the digits of a number. -/
theorem head?_toDigits {n : Nat} (h : n ≠ 0) : (Nat.toDigits 10 n).head? ≠ some '0' := by
  induction n using Nat.strongRecOn with
  | ind n ih =>
    rcases lt_or_ge n 10 with hlt | hge
    · rw [Nat.toDigits_of_lt_base hlt]
      simpa using h
    · rw [toDigits_of_le hge, List.head?_append_of_ne_nil _ Nat.toDigits_ne_nil]
      exact ih (n / 10) (by omega) (by omega)

/-! ## Numerals -/

theorem takeWhile_isDigit_toDigits (n : Nat) : (Nat.toDigits 10 n).takeWhile Char.isDigit = Nat.toDigits 10 n :=
  List.takeWhile_eq_self_iff.2 fun _ hc => isDigit_of_mem_toDigits hc

theorem dropWhile_isDigit_toDigits (n : Nat) : (Nat.toDigits 10 n).dropWhile Char.isDigit = [] :=
  List.dropWhile_eq_nil_iff.2 fun _ hc => isDigit_of_mem_toDigits hc

/-- The numeral of a whole number. -/
def wholeNumeral (n : Int) : Numeral := ⟨decide (n < 0), digits (Nat.toDigits 10 n.natAbs), none, none⟩

theorem head?_toDigits_ne_minus (n : Nat) : (Nat.toDigits 10 n).head? ≠ some '-' := by
  intro h
  have := isDigit_of_mem_toDigits (List.mem_of_head? h)
  exact absurd this (by decide)

/-- The text of a whole number is its numeral. -/
theorem numeral?_wholeText (n : Int) : numeral? (wholeText n) = some (wholeNumeral n) := by
  have hlead : ¬ (Nat.toDigits 10 n.natAbs = [] ∨
      ((Nat.toDigits 10 n.natAbs).head? = some '0' ∧ (Nat.toDigits 10 n.natAbs).length ≠ 1)) := by
    rintro (h | ⟨h0, hlen⟩)
    · exact Nat.toDigits_ne_nil h
    · rcases eq_or_ne n.natAbs 0 with hz | hz
      · exact hlen (by rw [hz]; rfl)
      · exact head?_toDigits hz h0
  unfold wholeText numeral?
  -- a minus is taken off, and what is left are digits to the end
  by_cases hneg : n < 0
  · simp only [if_pos hneg, List.head?_cons, List.drop_one, List.tail_cons, if_true, takeWhile_isDigit_toDigits,
      dropWhile_isDigit_toDigits, if_neg hlead]
    simp [tail?, wholeNumeral, hneg]
  · simp only [if_neg hneg, if_neg (head?_toDigits_ne_minus _), takeWhile_isDigit_toDigits,
      dropWhile_isDigit_toDigits, if_neg hlead]
    simp [tail?, wholeNumeral, hneg, head?_toDigits_ne_minus]

/-- The number has 64 bits, with a sign or without. -/
def IsWord (n : Int) : Prop := -(2 ^ 63) ≤ n ∧ n < 2 ^ 64

/-- The numeral of a number of 64 bits has the number for its value. -/
theorem whole?_wholeNumeral {n : Int} (h : IsWord n) : (wholeNumeral n).whole? = some n := by
  obtain ⟨hlow, hhigh⟩ := h
  unfold Numeral.whole? wholeNumeral
  simp only [number_digits_toDigits, Option.isSome_none, Bool.or_false, Bool.false_eq_true, if_false,
    decide_eq_true_eq]
  split
  · rename_i hneg
    rw [if_pos (by omega)]
    congr 1
    omega
  · rename_i hpos
    have hbound : n.natAbs ≤ Bounded.max64 := by
      unfold Bounded.max64
      omega
    rw [if_pos hbound]
    congr 1
    omega

theorem number?_wholeNumeral {n : Int} (h : IsWord n) : (wholeNumeral n).number? = some (.whole n) := by
  rw [Numeral.number?, whole?_wholeNumeral h]

end SeriesCatalog.Json
