/-
The words of a text against cutting it. A text divides into words in one way only, whatever the blanks
between them; so two texts of the same words, cut at a character that is no blank, have pieces of the same
words, and what trimming leaves of a text of one word is that word. Whoever reads pieces word by word need
not ask how a text was spaced.
-/
import SeriesCatalog.Proofs.Text.Cut

namespace SeriesCatalog

namespace Cut

variable {α : Type} {isSep : α → Bool}

/-- A separator between two lists divides their pieces. -/
theorem piecesBy_append_of_isSep (as : List α) {a : α} (ha : isSep a = true) (bs : List α) :
    piecesBy isSep (as ++ a :: bs) = piecesBy isSep as ++ piecesBy isSep bs := by
  induction as with
  | nil => simp [piecesBy, ha]
  | cons b as ih =>
    obtain ⟨p, ps, hp⟩ := List.exists_cons_of_ne_nil (piecesBy_ne_nil isSep as)
    rw [List.cons_append, piecesBy, piecesBy, ih, hp]
    split <;> rfl

/-- A list divides where the first element stands that has not the property of all before it. -/
theorem exists_span (p : α → Bool) (as : List α) :
    ∃ front back, as = front ++ back ∧ (∀ a ∈ front, p a = true) ∧ ∀ a ∈ back.head?, p a = false := by
  refine ⟨as.takeWhile p, as.dropWhile p, List.takeWhile_append_dropWhile.symm, fun a ha => List.mem_takeWhile_imp ha,
    fun a ha => ?_⟩
  have hfirst := List.head?_dropWhile_not p as
  rw [ha] at hfirst
  simpa using hfirst

end Cut

namespace Text

variable {cs ds w gap rest : List Char} {ws : List (List Char)}

/-- What is put together holds the separator and what its pieces hold. -/
theorem eq_or_mem_of_mem_join {sep c : Char} {ps : List (List Char)} (h : c ∈ join sep ps) :
    c = sep ∨ ∃ p ∈ ps, c ∈ p := by
  induction ps with
  | nil => cases h
  | cons p ps ih =>
    cases ps with
    | nil => exact .inr ⟨p, List.mem_singleton_self p, h⟩
    | cons q ps =>
      rcases List.mem_append.1 h with h | h
      · exact .inr ⟨p, List.mem_cons_self .., h⟩
      · rcases List.mem_cons.1 h with rfl | h
        · exact .inl rfl
        · exact (ih h).imp_right fun ⟨r, hr, hc⟩ => ⟨r, List.mem_cons_of_mem _ hr, hc⟩

/-! ## Dividing into words -/

/-- A blank between two texts divides their words. -/
theorem words_append_cons (cs : List Char) {c : Char} (hc : isBlank c = true) (ds : List Char) :
    words (cs ++ c :: ds) = words cs ++ words ds := by
  rw [words, Cut.piecesBy_append_of_isSep cs hc, List.filter_append, ← words, ← words]

theorem words_eq_nil_of_blank (h : ∀ c ∈ gap, isBlank c = true) : words gap = [] := by
  have hwords := words_append_of_blank h []
  rwa [List.append_nil] at hwords

/-- Where the second text begins with a blank or with nothing, no word goes on from the first to the second. -/
theorem words_append_of_head? (cs : List Char) (h : ∀ c ∈ rest.head?, isBlank c = true) :
    words (cs ++ rest) = words cs ++ words rest := by
  cases rest with
  | nil =>
    have hnil : words [] = [] := rfl
    rw [List.append_nil, hnil, List.append_nil]
  | cons c rest =>
    have hc : isBlank c = true := h c rfl
    have hskip : words (c :: rest) = words rest := words_append_of_blank (List.forall_mem_singleton.2 hc) rest
    rw [words_append_cons cs hc, hskip]

/-- Blanks behind a text are of no word. -/
theorem words_append_blanks (cs : List Char) (h : ∀ c ∈ gap, isBlank c = true) : words (cs ++ gap) = words cs := by
  rw [words_append_of_head? cs fun c hc => h c (List.mem_of_mem_head? hc), words_eq_nil_of_blank h, List.append_nil]

theorem words_eq_nil_iff : words cs = [] ↔ ∀ c ∈ cs, isBlank c = true := by
  refine ⟨fun h => ?_, words_eq_nil_of_blank⟩
  induction cs with
  | nil => exact nofun
  | cons c cs ih =>
    cases hc : isBlank c with
    | true => exact List.forall_mem_cons.2 ⟨hc, ih (words_append_of_blank (List.forall_mem_singleton.2 hc) cs ▸ h)⟩
    | false =>
      -- the first piece is not empty, so it is a word
      rw [words, Cut.piecesBy, hc] at h
      cases hp : Cut.piecesBy isBlank cs with
      | nil => exact absurd hp (Cut.piecesBy_ne_nil isBlank cs)
      | cons p ps => simp [hp] at h

/-- The first word stands behind blanks and before a blank, if anything follows it. -/
theorem words_eq_cons_iff : words cs = w :: ws ↔
    ∃ gap rest, cs = gap ++ (w ++ rest) ∧ (∀ c ∈ gap, isBlank c = true) ∧ IsWord w ∧
      (∀ c ∈ rest.head?, isBlank c = true) ∧ words rest = ws := by
  constructor
  · intro h
    obtain ⟨gap, ds, rfl, hgap, hds⟩ := Cut.exists_span isBlank cs
    obtain ⟨v, rest, rfl, hv, hrest⟩ := Cut.exists_span (!isBlank ·) ds
    have hhead : ∀ c ∈ rest.head?, isBlank c = true := fun c hc => by simpa using hrest c hc
    rw [words_append_of_blank hgap, words_append_of_head? v hhead] at h
    have hword : IsWord v := by
      refine ⟨?_, fun c hc => by simpa using hv c hc⟩
      rintro rfl
      -- the text behind the blanks would begin with a blank
      cases rest with
      | nil => cases h
      | cons c rest => exact absurd (hhead c rfl) (by simp [hds c rfl])
    rw [words_of_noBlank hword.1 hword.2, List.singleton_append] at h
    obtain ⟨rfl, hwords⟩ := List.cons.inj h
    exact ⟨gap, rest, rfl, hgap, hword, hhead, hwords⟩
  · rintro ⟨gap, rest, rfl, hgap, hw, hrest, rfl⟩
    rw [words_append_of_blank hgap, words_append_of_head? w hrest, words_of_noBlank hw.1 hw.2, List.singleton_append]

/-- Words with single blanks between them are the words of that text. -/
theorem words_join (h : ∀ w ∈ ws, IsWord w) : words (join ' ' ws) = ws := by
  induction ws with
  | nil => rfl
  | cons w ws ih =>
    obtain ⟨hw, hws⟩ := List.forall_mem_cons.1 h
    cases ws with
    | nil => exact words_of_noBlank hw.1 hw.2
    | cons v ws => rw [join, words_append _ hw.1 hw.2 (by decide), ih hws]

/-! ## Trimming -/

/-- Blanks around a text without blanks are trimmed. -/
theorem trim_framed {gap' : List Char} (hgap : ∀ c ∈ gap, isBlank c = true) (hw : ∀ c ∈ w, isBlank c = false)
    (hgap' : ∀ c ∈ gap', isBlank c = true) : trim (gap ++ (w ++ gap')) = w := by
  cases w with
  | nil =>
    rw [trim, Cut.trimBy, List.nil_append, List.dropWhile_append_of_pos hgap, List.dropWhile_eq_nil_iff.2 hgap']
    rfl
  | cons c w =>
    rw [trim, Cut.trimBy, List.dropWhile_append_of_pos hgap, List.cons_append,
      List.dropWhile_cons_of_neg (by simp [hw c (List.mem_cons_self ..)]), ← List.cons_append,
      Cut.trimEnd_append_of_all _ hgap', Cut.trimEnd_eq_self hw]

/-- A text of the same words as one without blanks is trimmed to that one. -/
theorem trim_eq_of_words (h : words cs = words w) (hw : ∀ c ∈ w, isBlank c = false) : trim cs = w := by
  rcases eq_or_ne w [] with rfl | hne
  · have hblank : ∀ c ∈ cs, isBlank c = true := words_eq_nil_iff.1 h
    simpa using @trim_framed [] cs [] hblank nofun nofun
  · rw [words_of_noBlank hne hw] at h
    obtain ⟨gap, rest, rfl, hgap, -, -, hrest⟩ := words_eq_cons_iff.1 h
    exact trim_framed hgap hw (words_eq_nil_iff.1 hrest)

/-- Trimming takes no word away. -/
theorem words_trim (cs : List Char) : words (trim cs) = words cs := by
  obtain ⟨tail, hsplit, htail⟩ := Cut.exists_eq_trimEnd_append isBlank (cs.dropWhile isBlank)
  have hfront : ∀ c ∈ cs.takeWhile isBlank, isBlank c = true := fun c hc => List.mem_takeWhile_imp hc
  calc words (trim cs) = words (trim cs ++ tail) := (words_append_blanks _ htail).symm
    _ = words (cs.takeWhile isBlank ++ cs.dropWhile isBlank) := by
      rw [trim, Cut.trimBy, ← hsplit, words_append_of_blank hfront]
    _ = words cs := by rw [List.takeWhile_append_dropWhile]

/-! ## Cutting -/

/-- A text without the mark before another one goes to the part before the mark. -/
theorem cutFirst_append_of_notMem {sep : Char} (h : sep ∉ cs) (ds : List Char) :
    cutFirst [sep] (cs ++ ds) = (cutFirst [sep] ds).map (Prod.map (cs ++ ·) id) := by
  cases hcut : cutFirst [sep] ds with
  | none =>
    rw [cutFirst_singleton_eq_none_iff] at hcut
    rw [Option.map_none, cutFirst_singleton_eq_none_iff, List.mem_append]
    exact not_or.2 ⟨h, hcut⟩
  | some cut =>
    obtain ⟨rfl, hbefore⟩ := cutFirst_singleton_eq_some_iff.1 hcut
    rw [Option.map_some, Prod.map, cutFirst_singleton_eq_some_iff, List.append_assoc]
    exact ⟨rfl, by simp [h, hbefore]⟩

section

variable {sep : Char} (hsep : isBlank sep = false)
include hsep

theorem notMem_of_blank (h : ∀ c ∈ gap, isBlank c = true) : sep ∉ gap := by
  intro hmem
  rw [h sep hmem] at hsep
  cases hsep

/-- A mark in the first word cuts that word. -/
theorem words_cutFirst_of_some {before after : List Char} (hgap : ∀ c ∈ gap, isBlank c = true)
    (hcut : cutFirst [sep] w = some (before, after)) (hhead : ∀ c ∈ rest.head?, isBlank c = true) :
    (cutFirst [sep] (gap ++ (w ++ rest))).map (Prod.map words words) =
      some (words before, words after ++ words rest) := by
  obtain ⟨rfl, hbefore⟩ := cutFirst_singleton_eq_some_iff.1 hcut
  have hwhole : cutFirst [sep] (gap ++ (before ++ sep :: after ++ rest)) = some (gap ++ before, after ++ rest) := by
    rw [cutFirst_singleton_eq_some_iff]
    exact ⟨by simp, by simp [notMem_of_blank hsep hgap, hbefore]⟩
  rw [hwhole, Option.map_some, Prod.map, words_append_of_blank hgap, words_append_of_head? after hhead]

/-- Without a mark in the first word the rest is cut. -/
theorem words_cutFirst_of_notMem (hgap : ∀ c ∈ gap, isBlank c = true) (hw : IsWord w) (hmem : sep ∉ w)
    (hhead : ∀ c ∈ rest.head?, isBlank c = true) :
    (cutFirst [sep] (gap ++ (w ++ rest))).map (Prod.map words words) =
      ((cutFirst [sep] rest).map (Prod.map words words)).map (Prod.map (w :: ·) id) := by
  rw [cutFirst_append_of_notMem (notMem_of_blank hsep hgap), cutFirst_append_of_notMem hmem]
  cases hcut : cutFirst [sep] rest with
  | none => rfl
  | some cut =>
    obtain ⟨hrest, -⟩ := cutFirst_singleton_eq_some_iff.1 hcut
    -- what stands before the mark begins as the rest does
    have hbefore : ∀ c ∈ cut.1.head?, isBlank c = true := by
      intro c hc
      refine hhead c ?_
      rw [hrest]
      exact List.mem_head?_append_of_mem_head? hc
    simp only [Option.map_some, Prod.map, id_eq, words_append_of_blank hgap, words_append_of_head? w hbefore,
      words_of_noBlank hw.1 hw.2, List.singleton_append]

/-- Cut at the first mark, two texts of the same words have parts of the same words. -/
theorem cutFirst_words_congr (h : words cs = words ds) :
    (cutFirst [sep] cs).map (Prod.map words words) = (cutFirst [sep] ds).map (Prod.map words words) := by
  generalize hws : words ds = ws at h
  induction ws generalizing cs ds with
  | nil =>
    have hnone : ∀ {as : List Char}, words as = [] → cutFirst [sep] as = none := fun has =>
      cutFirst_singleton_eq_none_iff.2 (notMem_of_blank hsep (words_eq_nil_iff.1 has))
    rw [hnone h, hnone hws]
  | cons w ws ih =>
    obtain ⟨gap, rest, rfl, hgap, hw, hhead, hrest⟩ := words_eq_cons_iff.1 h
    obtain ⟨gap', rest', rfl, hgap', -, hhead', hrest'⟩ := words_eq_cons_iff.1 hws
    cases hcut : cutFirst [sep] w with
    | none =>
      rw [cutFirst_singleton_eq_none_iff] at hcut
      rw [words_cutFirst_of_notMem hsep hgap hw hcut hhead, words_cutFirst_of_notMem hsep hgap' hw hcut hhead',
        ih hrest hrest']
    | some cut =>
      rw [words_cutFirst_of_some hsep hgap hcut hhead, words_cutFirst_of_some hsep hgap' hcut hhead', hrest, hrest']

end

/-- The pieces are cut off one after the other. -/
theorem pieces_eq_cutFirst (sep : Char) (cs : List Char) :
    pieces sep cs =
      match cutFirst [sep] cs with
      | none => [cs]
      | some (before, after) => before :: pieces sep after := by
  cases hcut : cutFirst [sep] cs with
  | none =>
    exact pieces_of_notMem (cutFirst_singleton_eq_none_iff.1 hcut)
  | some cut =>
    obtain ⟨rfl, hbefore⟩ := cutFirst_singleton_eq_some_iff.1 hcut
    rw [pieces_append, pieces_of_notMem hbefore, List.singleton_append]

/-- Two texts of the same words have pieces of the same words. -/
theorem pieces_words_congr {sep : Char} (hsep : isBlank sep = false) (h : words cs = words ds) :
    (pieces sep cs).map words = (pieces sep ds).map words := by
  induction hn : cs.length using Nat.strong_induction_on generalizing cs ds with
  | _ n ih =>
    have hcut := cutFirst_words_congr hsep h
    rw [pieces_eq_cutFirst sep cs, pieces_eq_cutFirst sep ds]
    cases hcs : cutFirst [sep] cs with
    | none =>
      rw [hcs, Option.map_none, eq_comm, Option.map_eq_none_iff] at hcut
      rw [hcut, List.map_singleton, List.map_singleton, h]
    | some cut =>
      rw [hcs, Option.map_some, eq_comm, Option.map_eq_some_iff] at hcut
      obtain ⟨cut', hds, hwords⟩ := hcut
      obtain ⟨hbefore, hafter⟩ := Prod.mk.inj hwords
      have hshorter : cut.2.length < n := by
        rw [← hn, (cutFirst_singleton_eq_some_iff.1 hcs).1, List.length_append, List.length_cons]
        omega
      rw [hds, List.map_cons, List.map_cons, hbefore, ih _ hshorter hafter.symm rfl]

end Text

end SeriesCatalog
