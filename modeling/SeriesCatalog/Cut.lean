/-
Cutting lists: into pieces at every separator, and at the ends. A separator belongs to no piece.
-/
namespace SeriesCatalog.Cut

variable {α : Type}

/-! ## Pieces -/

/-- The pieces between separators: `n` separators leave `n + 1` pieces, some of which may be empty. -/
def piecesBy (isSep : α → Bool) : List α → List (List α)
  | [] => [[]]
  | a :: as =>
    if isSep a then [] :: piecesBy isSep as
    else
      match piecesBy isSep as with
      | [] => [[a]]
      | p :: ps => (a :: p) :: ps

theorem piecesBy_ne_nil (isSep : α → Bool) (as : List α) : piecesBy isSep as ≠ [] := by
  cases as with
  | nil => simp [piecesBy]
  | cons a as =>
    rw [piecesBy]
    split
    · simp
    · split <;> simp

/-- No piece holds a separator. -/
theorem not_isSep_of_mem_piecesBy {isSep : α → Bool} {as p : List α}
    (hp : p ∈ piecesBy isSep as) : ∀ a ∈ p, isSep a = false := by
  induction as generalizing p with
  | nil => simp [piecesBy] at hp; simp [hp]
  | cons a as ih =>
    rw [piecesBy] at hp
    split at hp
    · rcases List.mem_cons.1 hp with rfl | hp
      · simp
      · exact ih hp
    · rename_i ha
      cases hq : piecesBy isSep as with
      | nil => exact absurd hq (piecesBy_ne_nil _ _)
      | cons q qs =>
        rw [hq] at hp ih
        rcases List.mem_cons.1 hp with rfl | hp
        · intro b hb
          rcases List.mem_cons.1 hb with rfl | hb
          · simpa using ha
          · exact ih (List.mem_cons_self ..) b hb
        · exact ih (List.mem_cons_of_mem _ hp)

/-! ## Ends -/

/-- The list without the longest run of such elements at its end. -/
def trimEnd (drop : α → Bool) (as : List α) : List α := (as.reverse.dropWhile drop).reverse

/-- The list without such elements at either end. -/
def trimBy (drop : α → Bool) (as : List α) : List α := trimEnd drop (as.dropWhile drop)

end SeriesCatalog.Cut
