/-
Texts as lists of characters: blanks, which separate the words of a statement and may not occur
inside a name, letter case, and cutting text: into pieces at every occurrence of a character, into
words, into two at the first or the last mark, and trimming blanks. Only the 26 ASCII letters have
two cases here. Joining undoes cutting into pieces.
-/
import SeriesCatalog.Cut

namespace SeriesCatalog.Text

open Cut

/-! ## Blanks -/

/-- The character has the Unicode property White_Space. -/
def isBlank (c : Char) : Bool :=
  let n := c.toNat
  (0x9 ≤ n && n ≤ 0xD) || n == 0x20 || n == 0x85 || n == 0xA0 || n == 0x1680 ||
    (0x2000 ≤ n && n ≤ 0x200A) || n == 0x2028 || n == 0x2029 || n == 0x202F || n == 0x205F ||
    n == 0x3000

example : isBlank '\x0b' = true ∧ isBlank '\u00a0' = true ∧ isBlank '\u200b' = false := by decide

/-! ## Letter case -/

/-- The text with ASCII capitals made small. -/
def lower (cs : List Char) : List Char := cs.map Char.toLower

/-- The text with ASCII small letters made capital. -/
def upper (cs : List Char) : List Char := cs.map Char.toUpper

/-- The two texts differ at most in the case of ASCII letters. -/
def sameLetters (s t : String) : Bool := lower s.toList == lower t.toList

example : sameLetters "DataType" "dATAtYPE" = true ∧ sameLetters "é" "É" = false := by decide

/-! ## Pieces -/

/-- The pieces between the occurrences of one separator. -/
def pieces (sep : Char) (cs : List Char) : List (List Char) := piecesBy (· == sep) cs

/-- The pieces with the separator put back between them. -/
def join (sep : Char) : List (List Char) → List Char
  | [] => []
  | [p] => p
  | p :: q :: ps => p ++ sep :: join sep (q :: ps)

theorem pieces_ne_nil (sep : Char) (cs : List Char) : pieces sep cs ≠ [] := piecesBy_ne_nil _ cs

/-- Joining the pieces gives the text back. -/
theorem join_pieces (sep : Char) (cs : List Char) : join sep (pieces sep cs) = cs := by
  unfold pieces
  induction cs with
  | nil => rfl
  | cons c cs ih =>
    rw [piecesBy]
    have hne := piecesBy_ne_nil (· == sep) cs
    split
    · rename_i hc
      have hc : c = sep := by simpa using hc
      cases hp : piecesBy (· == sep) cs with
      | nil => exact absurd hp hne
      | cons p ps => rw [hp] at ih; simp [join, ih, hc]
    · cases hp : piecesBy (· == sep) cs with
      | nil => exact absurd hp hne
      | cons p ps =>
        rw [hp] at ih
        cases ps with
        | nil => simpa [join] using ih
        | cons q qs => simpa [join] using ih

/-- Separator-free pieces, at least one of them, survive joining and cutting again. -/
theorem pieces_join {sep : Char} {ps : List (List Char)} (hne : ps ≠ []) (h : ∀ p ∈ ps, sep ∉ p) :
    pieces sep (join sep ps) = ps := by
  have single : ∀ (p : List Char), sep ∉ p → pieces sep p = [p] := by
    intro p hp
    induction p with
    | nil => rfl
    | cons c p ih =>
      have hc : (c == sep) = false := by simpa using fun he => hp (by simp [he])
      have := ih (fun hm => hp (List.mem_cons_of_mem _ hm))
      unfold pieces at this ⊢
      simp [piecesBy, hc, this]
  have front : ∀ (p rest : List Char), sep ∉ p →
      pieces sep (p ++ sep :: rest) = p :: pieces sep rest := by
    intro p rest hp
    induction p with
    | nil => simp [pieces, piecesBy]
    | cons c p ih =>
      have hc : (c == sep) = false := by simpa using fun he => hp (by simp [he])
      have := ih (fun hm => hp (List.mem_cons_of_mem _ hm))
      unfold pieces at this ⊢
      simp [piecesBy, hc, this]
  induction ps with
  | nil => exact absurd rfl hne
  | cons p ps ih =>
    cases ps with
    | nil => simpa [join] using single p (h p (by simp))
    | cons q qs =>
      rw [join, front p _ (h p (by simp))]
      rw [ih (by simp) (fun r hr => h r (List.mem_cons_of_mem _ hr))]

/-! ## Words -/

/-- The words: the non-empty pieces between blanks. -/
def words (cs : List Char) : List (List Char) := (piecesBy isBlank cs).filter (· ≠ [])

theorem words_nonempty {cs w : List Char} (h : w ∈ words cs) : w ≠ [] := by
  simpa using (List.mem_filter.1 h).2

theorem words_noBlank {cs w : List Char} (h : w ∈ words cs) : ∀ c ∈ w, isBlank c = false :=
  not_isSep_of_mem_piecesBy (List.mem_filter.1 h).1

/-! ## Cutting in two -/

/-- The text before and after the first occurrence of a mark. -/
def cutFirst (mark : List Char) : List Char → Option (List Char × List Char)
  | [] => if mark = [] then some ([], []) else none
  | c :: cs =>
    match mark.isPrefixOf? (c :: cs) with
    | some rest => some ([], rest)
    | none => (cutFirst mark cs).map fun (before, after) => (c :: before, after)

/-- The text before and after the last occurrence of a character. -/
def cutLast (mark : Char) : List Char → Option (List Char × List Char)
  | [] => none
  | c :: cs =>
    match cutLast mark cs with
    | some (before, after) => some (c :: before, after)
    | none => if c = mark then some ([], cs) else none

/-! ## Trimming -/

/-- The text without blanks at either end. -/
def trim (cs : List Char) : List Char := trimBy isBlank cs

end SeriesCatalog.Text
