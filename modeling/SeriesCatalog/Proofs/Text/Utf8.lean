/-
Encoded text reads back as it was: the bytes of a character are read as one piece, which is that
character, and so the bytes of a text as one piece for each of its characters. Hence a text begins with
another one exactly if its bytes do. The order of texts by code points is also the order of their
bytes, for more bytes begin with a greater one.
-/
import SeriesCatalog.Text.Utf8
import Mathlib.Tactic

namespace SeriesCatalog.Utf8

/-! ## One byte -/

theorem piecesFrom_ascii {b : UInt8} (h : b.toNat < 0x80) (bs : List UInt8) :
    piecesFrom none (b :: bs) = .char (Char.ofNat b.toNat) :: piecesFrom none bs := by
  rw [piecesFrom]
  simp [h]

theorem piecesFrom_begin {b : UInt8} {s : Begun} (h : begin? b.toNat = some s) (hb : 0x80 ≤ b.toNat)
    (bs : List UInt8) : piecesFrom none (b :: bs) = piecesFrom (some s) bs := by
  rw [piecesFrom]
  simp only [if_neg (not_lt.2 hb), h]

/-- A byte in range carries a begun character on. -/
theorem piecesFrom_next {b : UInt8} {s : Begun} (hb : s.low ≤ b.toNat ∧ b.toNat ≤ s.high) (hm : s.missing ≠ 1)
    (bs : List UInt8) :
    piecesFrom (some s) (b :: bs) =
      piecesFrom (some ⟨s.missing - 1, 0x80, 0xBF, s.value * 64 + (b.toNat - 0x80), s.taken + 1⟩) bs := by
  rw [piecesFrom]
  simp only [if_pos hb, if_neg hm]

/-- The last byte in range completes a begun character. -/
theorem piecesFrom_last {b : UInt8} {s : Begun} (hb : s.low ≤ b.toNat ∧ b.toNat ≤ s.high) (hm : s.missing = 1)
    (bs : List UInt8) :
    piecesFrom (some s) (b :: bs) = .char (Char.ofNat (s.value * 64 + (b.toNat - 0x80))) :: piecesFrom none bs := by
  rw [piecesFrom]
  simp only [if_pos hb, if_pos hm]

/-! ## One character -/

/-- The code points of characters. -/
theorem toNat_valid (c : Char) : c.toNat < 0xD800 ∨ 0xDFFF < c.toNat ∧ c.toNat < 0x110000 := c.valid

theorem toNat_ofNat_of_lt {n : Nat} (h : n < 256) : (UInt8.ofNat n).toNat = n := by
  simp [UInt8.toNat_ofNat', Nat.mod_eq_of_lt h]

/-- The first of two bytes. -/
theorem begin?_two {n : Nat} (h1 : 0x80 ≤ n) (h2 : n < 0x800) :
    begin? (0xC0 + n / 64) = some ⟨1, 0x80, 0xBF, n / 64, 1⟩ := by
  unfold begin?
  rw [if_pos (by omega), Nat.add_sub_cancel_left]

/-- The first of three bytes; its bounds for the second leave out what two bytes suffice for and the
surrogates. -/
theorem begin?_three {n : Nat} (h1 : 0x800 ≤ n) (h2 : n < 0x10000) (hs : n < 0xD800 ∨ 0xDFFF < n) :
    ∃ low high, begin? (0xE0 + n / 4096) = some ⟨2, low, high, n / 4096, 1⟩ ∧
      low ≤ 0x80 + n / 64 % 64 ∧ 0x80 + n / 64 % 64 ≤ high := by
  unfold begin?
  rw [if_neg (by omega)]
  by_cases h0 : n < 0x1000
  · have hz : n / 4096 = 0 := by omega
    rw [hz, if_pos rfl]
    exact ⟨_, _, rfl, by omega, by omega⟩
  · rw [if_neg (by omega)]
    by_cases hd : n / 4096 = 0xD
    · rw [hd, if_pos rfl]
      exact ⟨_, _, rfl, by omega, by omega⟩
    · rw [if_neg (by omega), if_pos (by omega), Nat.add_sub_cancel_left]
      exact ⟨_, _, rfl, by omega, by omega⟩

/-- The first of four bytes; its bounds for the second leave out what three bytes suffice for and
what is past the last code point. -/
theorem begin?_four {n : Nat} (h1 : 0x10000 ≤ n) (h2 : n < 0x110000) :
    ∃ low high, begin? (0xF0 + n / 262144) = some ⟨3, low, high, n / 262144, 1⟩ ∧
      low ≤ 0x80 + n / 4096 % 64 ∧ 0x80 + n / 4096 % 64 ≤ high := by
  unfold begin?
  rw [if_neg (by omega), if_neg (by omega), if_neg (by omega), if_neg (by omega)]
  by_cases h0 : n / 262144 = 0
  · rw [h0, if_pos rfl]
    exact ⟨_, _, rfl, by omega, by omega⟩
  · rw [if_neg (by omega)]
    by_cases h4 : n / 262144 = 4
    · rw [h4, if_neg (by omega), if_pos rfl]
      exact ⟨_, _, rfl, by omega, by omega⟩
    · rw [if_pos (by omega), Nat.add_sub_cancel_left]
      exact ⟨_, _, rfl, by omega, by omega⟩

/-- The bytes of a character are those that a string holds for it. -/
theorem encodeChar_eq (c : Char) : encodeChar c = String.utf8EncodeChar c := by
  have hvalid := toNat_valid c
  have hval : c.val.toNat = c.toNat := rfl
  unfold encodeChar String.utf8EncodeChar
  rw [hval]
  dsimp only
  generalize c.toNat = n at hvalid
  have hlast : 0x80 + n % 64 = n % 64 + 128 := by omega
  have hnext : 0x80 + n / 64 % 64 = n / 64 % 64 + 128 := by omega
  by_cases h1 : n < 0x80
  · rw [if_pos h1, if_pos (by omega)]
  rw [if_neg h1, if_neg (by omega : ¬ n ≤ 127)]
  by_cases h2 : n < 0x800
  · rw [if_pos h2, if_pos (by omega), show 0xC0 + n / 64 = n / 64 % 32 + 192 by omega, hlast]
  rw [if_neg h2, if_neg (by omega : ¬ n ≤ 2047)]
  by_cases h3 : n < 0x10000
  · rw [if_pos h3, if_pos (by omega), show 0xE0 + n / 4096 = n / 4096 % 16 + 224 by omega, hnext, hlast]
  rw [if_neg h3, if_neg (by omega : ¬ n ≤ 65535), show 0xF0 + n / 262144 = n / 262144 % 8 + 240 by omega,
    show 0x80 + n / 4096 % 64 = n / 4096 % 64 + 128 by omega, hnext, hlast]

/-- The bytes of a character are read as that character. -/
theorem piecesFrom_encodeChar (c : Char) (bs : List UInt8) :
    piecesFrom none (encodeChar c ++ bs) = .char c :: piecesFrom none bs := by
  have hvalid := toNat_valid c
  have hc : Char.ofNat c.toNat = c := Char.ofNat_toNat c
  unfold encodeChar
  dsimp only
  generalize c.toNat = n at hvalid hc
  split
  -- one byte
  · rename_i h1
    have hb := toNat_ofNat_of_lt (n := n) (by omega)
    rw [List.singleton_append, piecesFrom_ascii (by omega), hb, hc]
  split
  -- two bytes
  · rename_i h1 h2
    have hb0 := toNat_ofNat_of_lt (n := 0xC0 + n / 64) (by omega)
    have hb1 := toNat_ofNat_of_lt (n := 0x80 + n % 64) (by omega)
    have hbegin := begin?_two (by omega) h2
    rw [← hb0] at hbegin
    rw [List.cons_append, List.singleton_append, piecesFrom_begin hbegin (by omega),
      piecesFrom_last (by dsimp only; omega) rfl, hb1]
    dsimp only
    rw [show n / 64 * 64 + (0x80 + n % 64 - 0x80) = n by omega, hc]
  split
  -- three bytes; the bounds of the second depend on the first
  · rename_i h1 h2 h3
    have hb0 := toNat_ofNat_of_lt (n := 0xE0 + n / 4096) (by omega)
    have hb1 := toNat_ofNat_of_lt (n := 0x80 + n / 64 % 64) (by omega)
    have hb2 := toNat_ofNat_of_lt (n := 0x80 + n % 64) (by omega)
    obtain ⟨low, high, hbegin, hlow, hhigh⟩ := begin?_three (n := n) (by omega) h3 (by omega)
    rw [← hb0] at hbegin
    rw [List.cons_append, List.cons_append, List.singleton_append, piecesFrom_begin hbegin (by omega),
      piecesFrom_next (by dsimp only; omega) (by simp), piecesFrom_last (by dsimp only; omega) rfl, hb1, hb2]
    dsimp only
    rw [show (n / 4096 * 64 + (0x80 + n / 64 % 64 - 0x80)) * 64 + (0x80 + n % 64 - 0x80) = n by omega, hc]
  -- four bytes; again the bounds of the second depend on the first
  · rename_i h1 h2 h3
    have hb0 := toNat_ofNat_of_lt (n := 0xF0 + n / 262144) (by omega)
    have hb1 := toNat_ofNat_of_lt (n := 0x80 + n / 4096 % 64) (by omega)
    have hb2 := toNat_ofNat_of_lt (n := 0x80 + n / 64 % 64) (by omega)
    have hb3 := toNat_ofNat_of_lt (n := 0x80 + n % 64) (by omega)
    obtain ⟨low, high, hbegin, hlow, hhigh⟩ := begin?_four (n := n) (by omega) (by omega)
    rw [← hb0] at hbegin
    rw [List.cons_append, List.cons_append, List.cons_append, List.singleton_append,
      piecesFrom_begin hbegin (by omega), piecesFrom_next (by dsimp only; omega) (by simp),
      piecesFrom_next (by dsimp only; omega) (by simp), piecesFrom_last (by dsimp only; omega) rfl, hb1, hb2, hb3]
    dsimp only
    rw [show ((n / 262144 * 64 + (0x80 + n / 4096 % 64 - 0x80)) * 64 + (0x80 + n / 64 % 64 - 0x80)) * 64 +
      (0x80 + n % 64 - 0x80) = n by omega, hc]

/-! ## Texts -/

/-- The bytes of a text are read as its characters, whatever follows them. -/
theorem pieces_encode_append (cs : List Char) (bs : List UInt8) :
    pieces (encode cs ++ bs) = cs.map Piece.char ++ pieces bs := by
  unfold pieces encode
  induction cs with
  | nil => rfl
  | cons c cs ih =>
    rw [List.flatMap_cons, List.append_assoc, piecesFrom_encodeChar, ih, List.map_cons, List.cons_append]

/-- The bytes of a text are read as its characters. -/
theorem pieces_encode (cs : List Char) : pieces (encode cs) = cs.map Piece.char := by
  have h := pieces_encode_append cs []
  rwa [List.append_nil, pieces, pieces, piecesFrom, List.append_nil] at h

theorem textFrom_map_char (index : Nat) (cs : List Char) : textFrom index (cs.map Piece.char) = .ok cs := by
  induction cs generalizing index with
  | nil => rfl
  | cons c cs ih =>
    rw [List.map_cons, textFrom, ih]
    rfl

/-- The bytes of a text are decoded to the text. -/
theorem decode_encode (cs : List Char) : decode (encode cs) = .ok cs := by
  rw [decode, pieces_encode, textFrom_map_char]

/-- A string is held as the bytes of its characters. -/
theorem encode_toList (s : String) : encode s.toList = s.toUTF8.data.toList := by
  have hchars : encodeChar = String.utf8EncodeChar := funext encodeChar_eq
  have hheld : s.toList.utf8Encode = s.toUTF8 := String.utf8Encode_toList
  rw [encode, hchars, ← hheld, List.utf8Encode, List.toList_data_toByteArray]

/-! ## Beginnings -/

theorem encode_append (a b : List Char) : encode (a ++ b) = encode a ++ encode b := List.flatMap_append

/-- One text begins with another exactly if its bytes begin with those of the other. -/
theorem encode_prefix_iff {a b : List Char} : encode a <+: encode b ↔ a <+: b := by
  constructor
  · rintro ⟨rest, hbytes⟩
    -- what follows is read as some pieces, so the characters are the first pieces of both
    have hpieces : a.map Piece.char ++ pieces rest = b.map Piece.char := by
      rw [← pieces_encode_append, hbytes, pieces_encode]
    have hinjective : Function.Injective Piece.char := fun _ _ => Piece.char.inj
    exact (List.prefix_map_iff_of_injective hinjective).1 ⟨_, hpieces⟩
  · rintro ⟨rest, rfl⟩
    exact ⟨encode rest, (encode_append a rest).symm⟩

/-! ## Order -/

theorem ofNat_cons_lt_cons {m n : Nat} (hm : m < 256) (hn : n < 256) {xs ys : List UInt8} :
    UInt8.ofNat m :: xs < UInt8.ofNat n :: ys ↔ m < n ∨ m = n ∧ xs < ys := by
  rw [List.cons_lt_cons_iff, UInt8.lt_iff_toNat_lt, ← UInt8.toNat_inj, toNat_ofNat_of_lt hm, toNat_ofNat_of_lt hn]

/-- A smaller character has smaller bytes, whatever follows them. -/
theorem encodeChar_append_lt {c d : Char} (h : c < d) (xs ys : List UInt8) :
    encodeChar c ++ xs < encodeChar d ++ ys := by
  have hlt : c.toNat < d.toNat := h
  have hc := toNat_valid c
  have hd := toNat_valid d
  unfold encodeChar
  dsimp only
  generalize c.toNat = n at hlt hc
  generalize d.toNat = m at hlt hd
  -- the first byte tells how many bytes there are; of as many the first that differ decide
  split_ifs <;> simp (disch := omega) only [List.cons_append, List.nil_append, ofNat_cons_lt_cons] <;> omega

theorem encodeChar_ne_nil (c : Char) : encodeChar c ≠ [] := by
  unfold encodeChar
  dsimp only
  split_ifs <;> exact List.cons_ne_nil _ _

/-- Texts in the order of their characters are in the order of their bytes. -/
theorem encode_lt_encode {a b : List Char} (h : a < b) : encode a < encode b := by
  induction a generalizing b with
  | nil =>
    cases b with
    | nil => exact absurd h (List.lt_irrefl _)
    | cons d b =>
      obtain ⟨x, xs, he⟩ := List.exists_cons_of_ne_nil (encodeChar_ne_nil d)
      rw [encode, encode, List.flatMap_nil, List.flatMap_cons, he]
      exact List.nil_lt_cons _ _
  | cons c a ih =>
    cases b with
    | nil => cases h
    | cons d b =>
      rw [encode, encode, List.flatMap_cons, List.flatMap_cons]
      rcases List.cons_lt_cons_iff.1 h with hlt | ⟨rfl, hlt⟩
      · exact encodeChar_append_lt hlt _ _
      · exact List.append_left_lt (ih hlt)

end SeriesCatalog.Utf8
