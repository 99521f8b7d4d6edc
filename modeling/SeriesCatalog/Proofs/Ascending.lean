/-
Ascending lists as finite maps: such a list is determined by its entries, so two of them are equal
as soon as they hold the same ones. Inserting replaces the entry of its key and nothing else.
-/
import SeriesCatalog.Ascending
import Mathlib.Data.List.Perm.Basic

namespace SeriesCatalog.Ascending

variable {α β : Type} {key : α → String} {l l' : List α}

/-! ## Entries -/

theorem Holds.nodup (h : Holds key l) : l.Nodup := by
  refine List.Pairwise.imp (fun {a b} hlt he => ?_) h
  rw [he] at hlt
  exact String.lt_irrefl _ hlt

/-- The entries determine the list. -/
theorem Holds.ext (h : Holds key l) (h' : Holds key l') (hmem : ∀ x, x ∈ l ↔ x ∈ l') : l = l' := by
  have hp : l.Perm l' := (List.perm_ext_iff_of_nodup h.nodup h'.nodup).2 hmem
  refine List.Perm.eq_of_pairwise (fun a b _ _ hab hba => ?_) h h' hp
  exact absurd hab (String.lt_asymm hba)

/-- Entries of one key are equal. -/
theorem Holds.eq_of_key (h : Holds key l) {a b : α} (ha : a ∈ l) (hb : b ∈ l)
    (hk : key a = key b) : a = b := by
  induction l with
  | nil => cases ha
  | cons c l ih =>
    obtain ⟨hc, hl⟩ := List.pairwise_cons.1 h
    rcases List.mem_cons.1 ha with ha | ha <;> rcases List.mem_cons.1 hb with hb | hb
    · rw [ha, hb]
    · have hlt := hc b hb
      rw [← ha, hk] at hlt; exact absurd hlt (String.lt_irrefl _)
    · have hlt := hc a ha
      rw [← hb, hk] at hlt; exact absurd hlt (String.lt_irrefl _)
    · exact ih hl ha hb

theorem Holds.filter (h : Holds key l) (p : α → Bool) : Holds key (l.filter p) := List.Pairwise.filter p h

theorem holds_map {f : α → β} {key : β → String} : Holds key (l.map f) ↔ Holds (key ∘ f) l :=
  List.pairwise_map

/-! ## Insertion -/

theorem mem_insert_iff (h : Holds key l) {a x : α} :
    x ∈ insert key a l ↔ x = a ∨ (x ∈ l ∧ key x ≠ key a) := by
  induction l with
  | nil => simp [insert]
  | cons b l ih =>
    obtain ⟨hb, hl⟩ := List.pairwise_cons.1 h
    rw [insert]
    split
    -- the new entry comes first, and every key of the list is greater
    · rename_i hlt
      have hne : ∀ y ∈ b :: l, key y ≠ key a := by
        intro y hy he
        rcases List.mem_cons.1 hy with rfl | hy
        · exact String.lt_irrefl _ (he ▸ hlt)
        · exact String.lt_irrefl _ (he ▸ String.lt_trans hlt (hb y hy))
      rw [List.mem_cons]
      exact or_congr_right ⟨fun hx => ⟨hx, hne x hx⟩, fun hx => hx.1⟩
    · split
      -- it takes the place of the first entry
      · rename_i he
        have hne : ∀ y ∈ l, key y ≠ key a := fun y hy he' =>
          String.lt_irrefl _ (he'.trans he ▸ hb y hy)
        simp only [List.mem_cons]
        constructor
        · rintro (rfl | hx)
          · exact .inl rfl
          · exact .inr ⟨.inr hx, hne x hx⟩
        · rintro (rfl | ⟨rfl | hx, hk⟩)
          · exact .inl rfl
          · exact absurd he.symm hk
          · exact .inr hx
      -- it comes in further on
      · rename_i hne
        simp only [List.mem_cons, ih hl]
        constructor
        · rintro (rfl | rfl | ⟨hx, hk⟩)
          · exact .inr ⟨.inl rfl, fun he => hne he.symm⟩
          · exact .inl rfl
          · exact .inr ⟨.inr hx, hk⟩
        · rintro (rfl | ⟨rfl | hx, hk⟩)
          · exact .inr (.inl rfl)
          · exact .inl rfl
          · exact .inr (.inr ⟨hx, hk⟩)

/-- An entry of a new key comes in beside the others. -/
theorem mem_insert_of_new (h : Holds key l) {a x : α} (hnew : ∀ b ∈ l, key b ≠ key a) :
    x ∈ insert key a l ↔ x = a ∨ x ∈ l := by
  rw [mem_insert_iff h]
  exact or_congr_right ⟨fun hx => hx.1, fun hx => ⟨hx, hnew x hx⟩⟩

/-- An entry of a new key makes the list longer by one. -/
theorem length_insert_of_new {a : α} {l : List α} (h : ∀ b ∈ l, key b ≠ key a) :
    (insert key a l).length = l.length + 1 := by
  induction l with
  | nil => rfl
  | cons b l ih =>
    obtain ⟨hb, hl⟩ := List.forall_mem_cons.1 h
    rw [insert]
    split
    · rfl
    · rw [if_neg hb.symm, List.length_cons, ih hl, List.length_cons]

/-! ## Texts -/

theorem holds_texts (l : List String) : Holds id (texts l) := Holds.ofList id l

end SeriesCatalog.Ascending
