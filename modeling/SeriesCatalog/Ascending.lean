/-
Lists kept in strictly ascending order of a text key: the databases and series of a tree, the
schemes of a registry, the members of an object, and the listings that introspection returns.
Order is by code point, which is also the byte order of the encoded text. Inserting keeps the order
and adds exactly the inserted entry, in place of one with the same key.
-/
namespace SeriesCatalog.Ascending

variable {α : Type}

/-- Strictly ascending keys; in particular no key occurs twice. -/
def Holds (key : α → String) (l : List α) : Prop := l.Pairwise fun a b => key a < key b

/-- The list with the entry at its place; an entry of the same key gives way. -/
def insert (key : α → String) (a : α) : List α → List α
  | [] => [a]
  | b :: bs =>
    if key a < key b then a :: b :: bs
    else if key a = key b then a :: bs
    else b :: insert key a bs

/-- The entries in ascending order; of several with one key the last stays. -/
def ofList (key : α → String) (l : List α) : List α := l.foldl (fun acc a => insert key a acc) []

/-- The texts in ascending order, each once. -/
def texts (l : List String) : List String := ofList id l

/-! ## Order -/

theorem lt_of_not_lt_of_ne {s t : String} (h : ¬ s < t) (hne : s ≠ t) : t < s := by
  rcases String.le_total s t with hle | hle
  · exact absurd (String.le_antisymm hle (String.not_lt.1 h)) hne
  · exact String.not_le.1 fun h' => hne (String.le_antisymm h' hle)

theorem mem_of_mem_insert {key : α → String} {a x : α} {l : List α} (h : x ∈ insert key a l) :
    x = a ∨ x ∈ l := by
  induction l with
  | nil => simpa [insert] using h
  | cons b bs ih =>
    rw [insert] at h
    split at h
    · simpa using h
    · split at h
      · rcases List.mem_cons.1 h with h | h
        · exact .inl h
        · exact .inr (List.mem_cons_of_mem _ h)
      · rcases List.mem_cons.1 h with h | h
        · exact .inr (by simp [h])
        · rcases ih h with h | h
          · exact .inl h
          · exact .inr (List.mem_cons_of_mem _ h)

theorem mem_insert_self (key : α → String) (a : α) (l : List α) : a ∈ insert key a l := by
  induction l with
  | nil => simp [insert]
  | cons b bs ih =>
    rw [insert]
    split
    · simp
    · split
      · simp
      · exact List.mem_cons_of_mem _ ih

/-- An entry of another key stays. -/
theorem mem_insert_of_mem {key : α → String} {a x : α} {l : List α} (h : x ∈ l)
    (hne : key x ≠ key a) : x ∈ insert key a l := by
  induction l with
  | nil => cases h
  | cons b bs ih =>
    rw [insert]
    split
    · exact List.mem_cons_of_mem _ h
    · split
      · rename_i hk
        rcases List.mem_cons.1 h with rfl | h
        · exact absurd hk.symm hne
        · exact List.mem_cons_of_mem _ h
      · rcases List.mem_cons.1 h with rfl | h
        · simp
        · exact List.mem_cons_of_mem _ (ih h)

/-- Inserting keeps the order. -/
theorem Holds.insert {key : α → String} {l : List α} (h : Holds key l) (a : α) :
    Holds key (insert key a l) := by
  induction l with
  | nil => simp [Holds, Ascending.insert]
  | cons b bs ih =>
    obtain ⟨hb, hbs⟩ := List.pairwise_cons.1 h
    rw [Ascending.insert]
    split
    · rename_i hlt
      refine List.pairwise_cons.2 ⟨?_, h⟩
      intro x hx
      rcases List.mem_cons.1 hx with rfl | hx
      · exact hlt
      · exact String.lt_trans hlt (hb x hx)
    · split
      · rename_i heq
        exact List.pairwise_cons.2 ⟨fun x hx => heq ▸ hb x hx, hbs⟩
      · rename_i hlt heq
        refine List.pairwise_cons.2 ⟨?_, ih hbs⟩
        intro x hx
        rcases mem_of_mem_insert hx with rfl | hx
        · exact lt_of_not_lt_of_ne hlt heq
        · exact hb x hx

theorem Holds.ofList (key : α → String) (l : List α) : Holds key (ofList key l) := by
  unfold Ascending.ofList
  suffices ∀ acc : List α, Holds key acc → Holds key (l.foldl (fun acc a => Ascending.insert key a acc) acc)
    from this [] List.Pairwise.nil
  induction l with
  | nil => exact fun _ h => h
  | cons a l ih => exact fun acc h => ih _ (h.insert a)

/-- Listing texts in order neither loses nor adds one. -/
theorem mem_texts {s : String} {l : List String} : s ∈ texts l ↔ s ∈ l := by
  have step : ∀ (t : String) (acc : List String), s ∈ insert id t acc ↔ s = t ∨ s ∈ acc := by
    intro t acc
    refine ⟨mem_of_mem_insert, ?_⟩
    rintro (rfl | h)
    · exact mem_insert_self ..
    · by_cases he : s = t
      · exact he ▸ mem_insert_self ..
      · exact mem_insert_of_mem h he
  unfold texts ofList
  suffices ∀ acc : List String,
      s ∈ l.foldl (fun acc a => insert id a acc) acc ↔ s ∈ l ∨ s ∈ acc by simpa using this []
  induction l with
  | nil => simp
  | cons t l ih =>
    intro acc
    rw [List.foldl_cons, ih, step, List.mem_cons]
    constructor
    · rintro (h | h | h)
      · exact .inl (.inr h)
      · exact .inl (.inl h)
      · exact .inr h
    · rintro ((h | h) | h)
      · exact .inr (.inl h)
      · exact .inl h
      · exact .inr (.inr h)

end SeriesCatalog.Ascending
