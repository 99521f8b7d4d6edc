/-
What may surround a statement: blanks before it, and behind it blanks, semicolons and blanks again. What is
left is the text between them, from its first character that is no blank to its last. So the words of the
creation of a series are its opening and the words of its attributes.
-/
import SeriesCatalog.Statement.Parser
import SeriesCatalog.Proofs.Text.Words

namespace SeriesCatalog.Statement

open Text

/-- The text ends neither in a blank nor in a semicolon. -/
def Ends (cs : List Char) : Prop := ∀ c ∈ cs.getLast?, isBlank c = false ∧ c ≠ ';'

theorem ends_concat {c : Char} (cs : List Char) (hc : isBlank c = false) (hsemicolon : c ≠ ';') : Ends (cs ++ [c]) := by
  intro d hd
  rw [List.getLast?_concat, Option.mem_some_iff] at hd
  exact hd ▸ ⟨hc, hsemicolon⟩

/-- A word behind the text decides how it ends. -/
theorem ends_append {w : List Char} (cs : List Char) (hw : IsWord w) (hsemicolon : w.getLast? ≠ some ';') :
    Ends (cs ++ w) := by
  intro c hc
  rw [List.getLast?_append_of_ne_nil _ hw.1] at hc
  exact ⟨hw.2 c (List.mem_of_getLast? hc), fun he => hsemicolon (he ▸ hc)⟩

/-- Of blanks, semicolons and blanks again nothing is left. -/
theorem trimEnd_behind {after behind : List Char} (hafter : ∀ c ∈ after, isBlank c = true)
    (hbehind : ∀ c ∈ behind, isBlank c = true) (n : ℕ) :
    Cut.trimEnd isBlank (Cut.trimEnd (· == ';') (Cut.trimEnd isBlank (after ++ List.replicate n ';' ++ behind))) =
      [] := by
  have hmem : ∀ c ∈ Cut.trimEnd (· == ';') (Cut.trimEnd isBlank (after ++ List.replicate n ';')), c ∈ after := by
    intro c hc
    cases n with
    | zero => simpa using Cut.mem_of_mem_trimEnd (Cut.mem_of_mem_trimEnd hc)
    | succ n =>
      rw [List.replicate_succ', ← List.append_assoc, Cut.trimEnd_concat (by decide), List.append_assoc,
        ← List.replicate_succ', Cut.trimEnd_append_of_all after (by simp)] at hc
      exact Cut.mem_of_mem_trimEnd hc
  rw [Cut.trimEnd_append_of_all _ hbehind]
  exact Cut.trimEnd_append_of_all [] fun c hc => hafter c (hmem c hc)

/-- Where there is no text, nothing is left either. -/
theorem core_behind {after behind : List Char} (hafter : ∀ c ∈ after, isBlank c = true)
    (hbehind : ∀ c ∈ behind, isBlank c = true) (n : ℕ) : core (after ++ List.replicate n ';' ++ behind) = [] := by
  have htrim : trim (after ++ List.replicate n ';' ++ behind) = List.replicate n ';' := by
    rw [trim, Cut.trimBy, List.append_assoc, List.dropWhile_append_of_pos hafter]
    cases n with
    | zero => simp [Cut.trimEnd, List.dropWhile_eq_nil_iff.2 hbehind]
    | succ n =>
      rw [List.replicate_succ, List.cons_append, List.dropWhile_cons_of_neg (by decide), ← List.cons_append,
        ← List.replicate_succ, Cut.trimEnd_append_of_all _ hbehind, List.replicate_succ',
          Cut.trimEnd_concat (by decide)]
  have hsemicolons : Cut.trimEnd (· == ';') (List.replicate n ';') = [] :=
    Cut.trimEnd_append_of_all [] (by simp)
  rw [core, htrim, hsemicolons]
  rfl

/-- Of a text that ends in neither, what may surround it leaves all but the blanks at its beginning. -/
theorem core_framed {before cs after behind : List Char} (hbefore : ∀ c ∈ before, isBlank c = true) (hcs : Ends cs)
    (hafter : ∀ c ∈ after, isBlank c = true) (hbehind : ∀ c ∈ behind, isBlank c = true) (n : ℕ) :
    core (before ++ cs ++ (after ++ List.replicate n ';' ++ behind)) = cs.dropWhile isBlank := by
  rcases eq_or_ne (cs.dropWhile isBlank) [] with hnil | hne
  · -- the text has no last character, as that would be no blank
    obtain rfl : cs = [] := by
      rcases List.eq_nil_or_concat cs with rfl | ⟨l, c, rfl⟩
      · rfl
      · have hc := hcs c (by simp)
        rw [List.dropWhile_eq_nil_iff.1 hnil c (by simp)] at hc
        cases hc.1
    rw [List.append_nil, List.append_assoc, ← List.append_assoc before, ← List.append_assoc]
    exact core_behind (fun c hc => (List.mem_append.1 hc).elim (hbefore c) (hafter c)) hbehind n
  · have hvanish := trimEnd_behind hafter hbehind n
    generalize after ++ List.replicate n ';' ++ behind = tail at hvanish
    have hstart : ∀ rest, (before ++ cs ++ rest).dropWhile isBlank = cs.dropWhile isBlank ++ rest := by
      intro rest
      rw [List.append_assoc, List.dropWhile_append_of_pos hbefore, List.dropWhile_append, if_neg (by simpa using hne)]
    have hidem : ∀ rest, (cs.dropWhile isBlank ++ rest).dropWhile isBlank = cs.dropWhile isBlank ++ rest := by
      intro rest
      rw [List.dropWhile_append, List.dropWhile_idempotent, if_neg (by simpa using hne)]
    have hlast : (cs.dropWhile isBlank).getLast? = cs.getLast? := by
      conv_rhs => rw [← List.takeWhile_append_dropWhile (p := isBlank) (l := cs)]
      rw [List.getLast?_append_of_ne_nil _ hne]
    rw [Ends, ← hlast] at hcs
    generalize cs.dropWhile isBlank = text at *
    have htrim : trim (before ++ cs ++ tail) = text ++ Cut.trimEnd isBlank tail := by
      rw [trim, Cut.trimBy, hstart, Cut.trimEnd_append_of_getLast? _ fun c hc => (hcs c hc).1]
    rw [core, htrim, Cut.trimEnd_append_of_getLast? _ fun c hc => beq_false_of_ne (hcs c hc).2, trim, Cut.trimBy, hidem,
      Cut.trimEnd_append_of_getLast? _ fun c hc => (hcs c hc).1, hvanish, List.append_nil]

section

variable {cs : List Char} (h : Ends cs)
include h

theorem core_of_ends : core cs = cs.dropWhile isBlank := by
  simpa using @core_framed [] cs [] [] nofun h nofun nofun 0

/-- A text that does not begin in a blank either is left when blanks and semicolons follow it. -/
theorem core_followed (hhead : ∀ c ∈ cs.head?, isBlank c = false) {after : List Char}
    (hafter : ∀ c ∈ after, isBlank c = true)
    (n : ℕ) : core (cs ++ after ++ List.replicate n ';') = cs := by
  have hkept : cs.dropWhile isBlank = cs := by
    cases cs with
    | nil => rfl
    | cons c cs => rw [List.dropWhile_cons_of_neg (by simpa using hhead c rfl)]
  simpa [hkept] using @core_framed [] cs after [] nofun h hafter nofun n

theorem core_of_ends_of_head? (hhead : ∀ c ∈ cs.head?, isBlank c = false) : core cs = cs := by
  simpa using core_followed h hhead (List.forall_mem_nil _) 0

end

/-! ## The words of a creation -/

/-- Of a text that holds words and no semicolon nothing is lost at the end of a statement but blanks. -/
theorem exists_core_append {u cs : List Char} (hu : IsWord u) (between : List Char) (hwords : words cs ≠ [])
    (hsemicolon : ';' ∉ cs) :
    ∃ kept, core (u ++ (between ++ cs)) = u ++ (between ++ kept) ∧ words kept = words cs := by
  obtain ⟨tail, hsplit, htail⟩ := Cut.exists_eq_trimEnd_append isBlank cs
  have hlast : ∀ c ∈ (Cut.trimEnd isBlank cs).getLast?, isBlank c = false := Cut.getLast?_trimEnd cs
  generalize Cut.trimEnd isBlank cs = kept at *
  subst hsplit
  rw [words_append_blanks kept htail] at hwords ⊢
  have hne : kept ≠ [] := by
    rintro rfl
    exact hwords rfl
  have hends : Ends (u ++ (between ++ kept)) := by
    intro c hc
    rw [← List.append_assoc, List.getLast?_append_of_ne_nil _ hne] at hc
    exact ⟨hlast c hc, fun he => hsemicolon (List.mem_append_left _ (he ▸ List.mem_of_getLast? hc))⟩
  have hcore := core_followed hends (hu.noBlank_head? _) htail 0
  rw [List.replicate_zero, List.append_nil, List.append_assoc, List.append_assoc] at hcore
  exact ⟨kept, hcore, rfl⟩

/-- The words of a creation whose attributes hold no semicolon. -/
theorem words_core_creation {w text : String} (hw : IsWord w.toList) (hwords : words text.toList ≠ [])
    (hsemicolon : ';' ∉ text.toList) :
    words (core ("create timeseries " ++ w ++ " with " ++ text).toList) =
      ["create".toList, "timeseries".toList] ++ w.toList :: "with".toList :: words text.toList := by
  have hcreate : IsWord "create".toList := ⟨by decide, noBlank_of_all (by decide)⟩
  have htimeseries : IsWord "timeseries".toList := ⟨by decide, noBlank_of_all (by decide)⟩
  have hwith : IsWord "with".toList := ⟨by decide, noBlank_of_all (by decide)⟩
  have hspread : ("create timeseries " ++ w ++ " with " ++ text).toList =
      "create".toList ++ (' ' :: ("timeseries".toList ++ ' ' :: (w.toList ++ ' ' :: ("with".toList ++ [' ']))) ++
        text.toList) := by
    simp
  obtain ⟨kept, hcore, hkept⟩ := exists_core_append hcreate _ hwords hsemicolon
  rw [hspread, hcore, ← hkept]
  simp only [List.cons_append, List.append_assoc, List.nil_append]
  rw [words_append _ hcreate.1 hcreate.2 (by decide), words_append _ htimeseries.1 htimeseries.2 (by decide),
    words_append _ hw.1 hw.2 (by decide), words_append _ hwith.1 hwith.2 (by decide)]

end SeriesCatalog.Statement
