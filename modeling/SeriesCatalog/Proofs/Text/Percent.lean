/-
Percent encoding is undone by decoding: a triple is decoded to its byte, and a character that is kept
to its own bytes, so encoded text is decoded to the bytes of the text as long as percent signs are not
kept. A delimiter that is not kept shows nowhere in encoded text, whatever the text is.
-/
import SeriesCatalog.Text.Percent
import SeriesCatalog.Proofs.Text.Utf8

namespace SeriesCatalog.Percent

/-! ## Decoding -/

theorem decode_cons_of_ne {c : Char} (h : c ≠ '%') (cs : List Char) :
    decode (c :: cs) = Utf8.encodeChar c ++ decode cs := by
  rw [decode]
  rintro a b ds rfl
  exact absurd rfl h

/-- A triple is decoded to its byte. -/
theorem decode_triple (b : UInt8) (cs : List Char) : decode (triple b ++ cs) = b :: decode cs := by
  have hb : b.toNat < 256 := b.toNat_lt
  have hhigh := Hex.digit?_capital (b.toNat / 16) (by omega)
  have hlow := Hex.digit?_capital (b.toNat % 16) (by omega)
  simp only [triple, List.cons_append, List.nil_append, decode, hhigh, hlow]
  rw [Nat.div_add_mod, UInt8.ofNat_toNat]

theorem decode_triples (bs : List UInt8) (cs : List Char) : decode (bs.flatMap triple ++ cs) = bs ++ decode cs := by
  induction bs with
  | nil => rfl
  | cons b bs ih => rw [List.flatMap_cons, List.append_assoc, decode_triple, ih, List.cons_append]

/-- Encoded text is decoded to the bytes of the text, as long as no percent sign is kept. -/
theorem decode_encode {keep : Char → Bool} (h : keep '%' = false) (cs : List Char) :
    decode (encode keep cs) = Utf8.encode cs := by
  unfold encode Utf8.encode
  induction cs with
  | nil => rfl
  | cons c cs ih =>
    rw [List.flatMap_cons, List.flatMap_cons]
    split
    · rename_i hc
      have hne : c ≠ '%' := by
        rintro rfl
        rw [h] at hc
        cases hc
      rw [List.singleton_append, decode_cons_of_ne hne, ih]
    · rw [decode_triples, ih]

/-! ## Encoded characters -/

theorem mem_triple {b : UInt8} {c : Char} (h : c ∈ triple b) : c = '%' ∨ ∃ n < 16, c = Hex.capital n := by
  have hb : b.toNat < 256 := b.toNat_lt
  simp only [triple, List.mem_cons, List.not_mem_nil, or_false] at h
  rcases h with rfl | rfl | rfl
  · exact .inl rfl
  · exact .inr ⟨b.toNat / 16, by omega, rfl⟩
  · exact .inr ⟨b.toNat % 16, by omega, rfl⟩

/-- A delimiter that is not kept does not show in encoded text, unless triples are made of it. -/
theorem notMem_encode {keep : Char → Bool} {d : Char} (hkeep : keep d = false) (hpercent : d ≠ '%')
    (hdigit : Hex.digit? d = none) (cs : List Char) : d ∉ encode keep cs := by
  intro h
  obtain ⟨c, -, hd⟩ := List.mem_flatMap.1 h
  split at hd
  · rename_i hc
    rw [List.mem_singleton.1 hd, hc] at hkeep
    cases hkeep
  · obtain ⟨b, -, hd⟩ := List.mem_flatMap.1 hd
    rcases mem_triple hd with hd | ⟨n, hn, rfl⟩
    · exact hpercent hd
    · rw [Hex.digit?_capital n hn] at hdigit
      cases hdigit

end SeriesCatalog.Percent
