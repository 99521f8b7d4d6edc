/-
Base64 reads back. Every character that encoding writes is one of the alphabet or the filling, so it is
printable and no blank; the value of each is the six bits that it was written for, and the bits of four
characters make up the three bytes again, or the one or two at the end.
-/
import SeriesCatalog.Text.Base64
import SeriesCatalog.Text.Cut

namespace SeriesCatalog.Base64

/-! ## Symbols -/

theorem value?_symbol : ∀ n < 64, value? (symbol n) = some n := by decide +kernel

theorem symbol_ne_filling : ∀ n < 64, symbol n ≠ '=' := by decide +kernel

/-- The character is printable ASCII and no blank. -/
def IsVisible (c : Char) : Prop := 0x20 < c.toNat ∧ c.toNat < 0x7F ∧ Text.isBlank c = false

instance (c : Char) : Decidable (IsVisible c) := inferInstanceAs (Decidable (_ ∧ _ ∧ _))

theorem isVisible_symbol : ∀ n < 64, IsVisible (symbol n) := by decide +kernel

theorem isVisible_filling : IsVisible '=' := by decide

/-! ## Six bits at a time -/

/-- What the four characters of three bytes stand for. -/
theorem sextets_lt (a b c : UInt8) :
    a.toNat / 4 < 64 ∧ a.toNat % 4 * 16 + b.toNat / 16 < 64 ∧ b.toNat % 16 * 4 + c.toNat / 64 < 64 ∧
      c.toNat % 64 < 64 := by
  have ha := a.toNat_lt
  have hb := b.toNat_lt
  have hc := c.toNat_lt
  omega

/-- The filling stands for no bits, as a byte of zeros would at its place. -/
theorem sextets_last_lt (a b : UInt8) : a.toNat % 4 * 16 < 64 ∧ b.toNat % 16 * 4 < 64 := by
  omega

/-- The first byte is the first six bits and two of the next. -/
theorem ofNat_first (a : UInt8) (n : Nat) (hn : n < 16) :
    UInt8.ofNat (a.toNat / 4 * 4 + (a.toNat % 4 * 16 + n) / 16) = a := by
  have h : a.toNat / 4 * 4 + (a.toNat % 4 * 16 + n) / 16 = a.toNat := by omega
  rw [h, UInt8.ofNat_toNat]

/-- The second byte is the last four of six bits and four of the next. -/
theorem ofNat_second (a b : UInt8) (n : Nat) (hn : n < 4) :
    UInt8.ofNat ((a.toNat % 4 * 16 + b.toNat / 16) % 16 * 16 + (b.toNat % 16 * 4 + n) / 4) = b := by
  have hb := b.toNat_lt
  have h : (a.toNat % 4 * 16 + b.toNat / 16) % 16 * 16 + (b.toNat % 16 * 4 + n) / 4 = b.toNat := by omega
  rw [h, UInt8.ofNat_toNat]

/-- The third byte is the last two of six bits and all of the last. -/
theorem ofNat_third (b c : UInt8) :
    UInt8.ofNat ((b.toNat % 16 * 4 + c.toNat / 64) % 4 * 64 + c.toNat % 64) = c := by
  have hc := c.toNat_lt
  have h : (b.toNat % 16 * 4 + c.toNat / 64) % 4 * 64 + c.toNat % 64 = c.toNat := by omega
  rw [h, UInt8.ofNat_toNat]

/-! ## Four characters at a time -/

theorem quartet_three (last : Bool) (a b c : UInt8) :
    quartet last (symbol (a.toNat / 4)) (symbol (a.toNat % 4 * 16 + b.toNat / 16))
      (symbol (b.toNat % 16 * 4 + c.toNat / 64)) (symbol (c.toNat % 64)) = some [a, b, c] := by
  obtain ⟨h1, h2, h3, h4⟩ := sextets_lt a b c
  have hb := b.toNat_lt
  have hc := c.toNat_lt
  simp only [quartet, value?_symbol _ h1, value?_symbol _ h2, value?_symbol _ h3, value?_symbol _ h4,
    symbol_ne_filling _ h3, symbol_ne_filling _ h4, and_false, if_false, Option.bind_eq_bind,
    Option.bind_some]
  rw [ofNat_first a _ (by omega), ofNat_second a b _ (by omega), ofNat_third]

theorem quartet_two (a b : UInt8) :
    quartet true (symbol (a.toNat / 4)) (symbol (a.toNat % 4 * 16 + b.toNat / 16)) (symbol (b.toNat % 16 * 4)) '=' =
      some [a, b] := by
  obtain ⟨h1, h2, -, -⟩ := sextets_lt a b 0
  obtain ⟨-, h3⟩ := sextets_last_lt a b
  have hb := b.toNat_lt
  have hrest : b.toNat % 16 * 4 % 4 = 0 := by omega
  have hsecond := ofNat_second a b 0 (by omega)
  rw [Nat.add_zero] at hsecond
  simp only [quartet, value?_symbol _ h1, value?_symbol _ h2, value?_symbol _ h3, symbol_ne_filling _ h3, hrest,
    and_false, false_and, and_self, if_false, if_true, Option.bind_eq_bind, Option.bind_some]
  rw [ofNat_first a _ (by omega), hsecond]

theorem quartet_one (a : UInt8) :
    quartet true (symbol (a.toNat / 4)) (symbol (a.toNat % 4 * 16)) '=' '=' = some [a] := by
  obtain ⟨h1, -, -, -⟩ := sextets_lt a 0 0
  obtain ⟨h2, -⟩ := sextets_last_lt a 0
  have hrest : a.toNat % 4 * 16 % 16 = 0 := by omega
  have hfirst := ofNat_first a 0 (by omega)
  rw [Nat.add_zero] at hfirst
  simp only [quartet, value?_symbol _ h1, value?_symbol _ h2, hrest, and_self, if_true, Option.bind_eq_bind,
    Option.bind_some]
  rw [hfirst]

/-! ## Encoded bytes -/

/-- Encoded bytes are decoded to themselves. -/
theorem decode?_encode (bytes : List UInt8) : decode? (encode bytes) = some bytes := by
  fun_induction encode bytes with
  | case1 => rfl
  | case2 a => simp [decode?, quartet_one]
  | case3 a b => simp [decode?, quartet_two]
  | case4 a b c rest ih => simp [decode?, quartet_three, ih]

theorem isVisible_of_mem_encode {bytes : List UInt8} : ∀ c ∈ encode bytes, IsVisible c := by
  fun_induction encode bytes with
  | case1 => nofun
  | case2 a =>
    obtain ⟨h1, -, -, -⟩ := sextets_lt a 0 0
    obtain ⟨h2, -⟩ := sextets_last_lt a 0
    simp [isVisible_symbol, isVisible_filling, h1, h2]
  | case3 a b =>
    obtain ⟨h1, h2, -, -⟩ := sextets_lt a b 0
    obtain ⟨-, h3⟩ := sextets_last_lt a b
    simp [isVisible_symbol, isVisible_filling, h1, h2, h3]
  | case4 a b c rest ih =>
    obtain ⟨h1, h2, h3, h4⟩ := sextets_lt a b c
    simpa [isVisible_symbol, h1, h2, h3, h4] using ih

theorem encode_eq_nil_iff {bytes : List UInt8} : encode bytes = [] ↔ bytes = [] := by
  fun_cases encode bytes <;> simp

end SeriesCatalog.Base64
