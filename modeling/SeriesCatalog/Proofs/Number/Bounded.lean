/-
Decimal numerals below a bound are read for what they spell: a run of digits reads as its number, as
long as that is in range, and a number in range reads back from its own digits.
-/
import SeriesCatalog.Number.Bounded
import SeriesCatalog.Proofs.Json.Number

namespace SeriesCatalog.Bounded

variable {max value n : Nat} {cs : List Char}

theorem isDigit_of_digit? {c : Char} {d : Nat} (h : Digits.digit? c = some d) : c.isDigit = true := by
  by_contra hc
  rw [Digits.digit?, if_neg hc] at h
  cases h

/-- The number read so far with further digits behind it. -/
def continued (value : Nat) (ds : List Nat) : Nat := ds.foldl (fun n d => n * 10 + d) value

theorem le_continued (value : Nat) (ds : List Nat) : value ≤ continued value ds := by
  induction ds generalizing value with
  | nil => exact le_rfl
  | cons d ds ih =>
    calc value ≤ value * 10 + d := by omega
      _ ≤ continued (value * 10 + d) ds := ih _

/-- Digits are read up to the end if the number that they make up is in range. -/
theorem readDigits_eq_ok_iff (hv : value ≤ max) :
    readDigits max value cs = .ok n ↔
      (∀ c ∈ cs, c.isDigit = true) ∧ continued value (Json.digits cs) = n ∧ n ≤ max := by
  induction cs generalizing value with
  | nil =>
    rw [readDigits, Except.ok.injEq]
    constructor
    · rintro rfl
      exact ⟨List.forall_mem_nil _, rfl, hv⟩
    · exact fun h => h.2.1
  | cons c cs ih =>
    rw [readDigits]
    cases hd : Digits.digit? c with
    | none =>
      constructor
      · intro h
        cases h
      · intro h
        rw [Digits.digit?, if_pos (h.1 c (List.mem_cons_self ..))] at hd
        cases hd
    | some d =>
      have hc := isDigit_of_digit? hd
      have hdigits : Json.digits (c :: cs) = d :: Json.digits cs := by
        rw [Json.digits, List.filterMap_cons, hd]
        rfl
      have hall : (∀ e ∈ c :: cs, e.isDigit = true) ↔ ∀ e ∈ cs, e.isDigit = true := by simp [hc]
      rw [hdigits, hall]
      dsimp only
      split
      · rename_i hle
        exact ih hle
      · rename_i hgt
        constructor
        · intro h
          cases h
        · rintro ⟨-, he, hle⟩
          -- digits never make a number smaller
          have hgrow := le_continued (value * 10 + d) (Json.digits cs)
          have hsame : continued value (d :: Json.digits cs) = continued (value * 10 + d) (Json.digits cs) := rfl
          omega

theorem not_isDigit_plus : Char.isDigit '+' = false := by decide

/-- Without a sign all characters are digits. -/
theorem read_of_head_ne {c : Char} (h : c ≠ '+') : read max (c :: cs) = readDigits max 0 (c :: cs) := by
  rw [read]
  · nofun
  · exact fun he => h (List.cons.inj he).1
  · exact fun ds he => h (List.cons.inj he).1

/-- A numeral is an optional plus sign and at least one digit, and its number is in range. -/
theorem read_eq_ok_iff :
    read max cs = .ok n ↔ ∃ ds, (cs = ds ∨ cs = '+' :: ds) ∧ ds ≠ [] ∧ (∀ c ∈ ds, c.isDigit = true) ∧
      Digits.number 10 (Json.digits ds) = n ∧ n ≤ max := by
  cases cs with
  | nil =>
    refine ⟨nofun, ?_⟩
    rintro ⟨ds, rfl | h, hne, -⟩
    · exact absurd rfl hne
    · cases h
  | cons c cs =>
    by_cases hc : c = '+'
    · subst hc
      -- the sign is no digit, so the digits are what follows
      have hds : ∀ ds, ('+' :: cs = ds ∨ '+' :: cs = '+' :: ds) → (∀ c ∈ ds, c.isDigit = true) → ds = cs := by
        rintro ds (rfl | h) hall
        · have hplus := hall '+' (List.mem_cons_self ..)
          rw [not_isDigit_plus] at hplus
          cases hplus
        · exact (List.cons.inj h).2.symm
      cases cs with
      | nil =>
        refine ⟨nofun, ?_⟩
        rintro ⟨ds, hsign, hne, hall, -⟩
        exact absurd (hds ds hsign hall) hne
      | cons d cs =>
        show readDigits max 0 (d :: cs) = .ok n ↔ _
        rw [readDigits_eq_ok_iff (Nat.zero_le _)]
        constructor
        · rintro ⟨hall, hn, hle⟩
          exact ⟨d :: cs, .inr rfl, List.cons_ne_nil _ _, hall, hn, hle⟩
        · rintro ⟨ds, hsign, -, hall, hn, hle⟩
          obtain rfl := hds ds hsign hall
          exact ⟨hall, hn, hle⟩
    · rw [read_of_head_ne hc, readDigits_eq_ok_iff (Nat.zero_le _)]
      constructor
      · rintro ⟨hall, hn, hle⟩
        exact ⟨c :: cs, .inl rfl, List.cons_ne_nil _ _, hall, hn, hle⟩
      · rintro ⟨ds, rfl | h, -, hall, hn, hle⟩
        · exact ⟨hall, hn, hle⟩
        · exact absurd (List.cons.inj h).1 hc

/-- A numeral is not empty, and has no character but digits and a plus sign. -/
theorem isDigit_or_plus_of_read (h : read max cs = .ok n) : cs ≠ [] ∧ ∀ c ∈ cs, c.isDigit = true ∨ c = '+' := by
  obtain ⟨ds, rfl | rfl, hne, hall, -⟩ := read_eq_ok_iff.1 h
  · exact ⟨hne, fun c hc => .inl (hall c hc)⟩
  · refine ⟨List.cons_ne_nil _ _, fun c hc => ?_⟩
    rcases List.mem_cons.1 hc with rfl | hc
    · exact .inr rfl
    · exact .inl (hall c hc)

/-- A number in range reads back from its digits. -/
theorem read_toDigits (h : n ≤ max) : read max (Nat.toDigits 10 n) = .ok n :=
  read_eq_ok_iff.2 ⟨_, .inl rfl, Nat.toDigits_ne_nil, fun _ hc => Json.isDigit_of_mem_toDigits hc,
    Json.number_digits_toDigits n, h⟩

end SeriesCatalog.Bounded
