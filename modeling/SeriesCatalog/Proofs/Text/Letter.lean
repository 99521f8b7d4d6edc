/-
Letter case against cutting and trimming. A change of case turns a letter into a letter, so blanks and
separators stay where they are: a text in small letters is cut and trimmed at the same places.
-/
import SeriesCatalog.Proofs.Text.Cut
import Mathlib

namespace SeriesCatalog

namespace Text

/-! ## Letters -/

theorem not_isBlank_of_isAlpha {c : Char} (h : c.isAlpha = true) : isBlank c = false := by
  simp only [Char.isAlpha, Char.isUpper, Char.isLower, UInt32.le_iff_toNat_le, Char.toNat_val, Bool.or_eq_true,
    decide_eq_true_eq, Bool.and_eq_true, ge_iff_le, Char.reduceVal, UInt32.reduceToNat] at h
  simp only [isBlank, Bool.or_eq_false_iff, Bool.and_eq_false_iff, decide_eq_false_iff_not, beq_eq_false_iff_ne]
  omega

theorem isBlank_toLower (c : Char) : isBlank c.toLower = isBlank c := by
  by_cases hc : c.isUpper
  · have halpha : c.isAlpha = true := by simp [Char.isAlpha, hc]
    rw [not_isBlank_of_isAlpha halpha, not_isBlank_of_isAlpha ((Char.isAlpha_toLower_eq_isAlpha c).trans halpha)]
  · rw [Char.toLower_eq_of_not_isUpper hc]

/-- No change of case makes a separator or takes one away. -/
theorem toLower_eq_iff {sep c : Char} (hsep : sep.isAlpha = false) : c.toLower = sep ↔ c = sep := by
  by_cases hc : c.isUpper
  · have halpha : c.isAlpha = true := by simp [Char.isAlpha, hc]
    refine iff_of_false ?_ ?_
    · rintro rfl
      rw [Char.isAlpha_toLower_eq_isAlpha, halpha] at hsep
      cases hsep
    · rintro rfl
      rw [halpha] at hsep
      cases hsep
  · rw [Char.toLower_eq_of_not_isUpper hc]

/-! ## Texts -/

variable {cs : List Char}

theorem lower_lower : lower (lower cs) = lower cs := by simp [lower]

theorem upper_lower : upper (lower cs) = upper cs := by simp [lower, upper]

theorem lower_eq_nil_iff : lower cs = [] ↔ cs = [] := List.map_eq_nil_iff

theorem trim_lower : trim (lower cs) = lower (trim cs) := by
  have hsame : isBlank ∘ Char.toLower = isBlank := funext isBlank_toLower
  rw [trim, lower, Cut.trimBy_map, hsame]
  rfl

theorem pieces_lower {sep : Char} (hsep : sep.isAlpha = false) :
    pieces sep (lower cs) = (pieces sep cs).map lower := by
  have hsame : (· == sep) ∘ Char.toLower = (· == sep) := by
    funext c
    rw [Function.comp_apply, Bool.eq_iff_iff, beq_iff_eq, beq_iff_eq, toLower_eq_iff hsep]
  rw [pieces, lower, Cut.piecesBy_map, hsame]
  rfl

theorem cutFirst_lower {d : Char} (hd : d.isAlpha = false) :
    cutFirst [d] (lower cs) = (cutFirst [d] cs).map (Prod.map lower lower) := by
  cases hcut : cutFirst [d] cs with
  | none =>
    rw [cutFirst_singleton_eq_none_iff] at hcut
    rw [Option.map_none, cutFirst_singleton_eq_none_iff, lower, List.mem_map]
    rintro ⟨c, hc, hlower⟩
    exact hcut ((toLower_eq_iff hd).1 hlower ▸ hc)
  | some cut =>
    obtain ⟨rfl, hbefore⟩ := cutFirst_singleton_eq_some_iff.1 hcut
    rw [Option.map_some, Prod.map, cutFirst_singleton_eq_some_iff]
    constructor
    · simp [lower, (toLower_eq_iff hd).2 rfl]
    · rw [lower, List.mem_map]
      rintro ⟨c, hc, hlower⟩
      exact hbefore ((toLower_eq_iff hd).1 hlower ▸ hc)

/-- A text put together from words with a separator keeps the separators in small letters. -/
theorem lower_join {sep : Char} (hsep : sep.isAlpha = false) (ws : List (List Char)) :
    lower (join sep ws) = join sep (ws.map lower) := by
  induction ws with
  | nil => rfl
  | cons w ws ih =>
    cases ws with
    | nil => rfl
    | cons v ws =>
      rw [List.map_cons, List.map_cons, join, join, ← List.map_cons, ← ih]
      simp [lower, (toLower_eq_iff hsep).2 rfl]

end Text

end SeriesCatalog
