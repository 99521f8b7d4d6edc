/-
Cutting text that was put together: the pieces of two texts with a separator between them are the
pieces of both, a cut at the first or at the last mark is undone by putting the mark back, text
without blanks is its own only word, and trimming leaves a text alone whose ends are to stay.
-/
import SeriesCatalog.Text.Cut
import Mathlib.Data.List.DropRight
import Mathlib.Data.List.TakeWhile
import Mathlib.Tactic

namespace SeriesCatalog

namespace Cut

variable {α : Type} {drop : α → Bool}

/-! ## Ends -/

theorem trimEnd_concat {as : List α} {a : α} (h : drop a = false) : trimEnd drop (as ++ [a]) = as ++ [a] := by
  simp [trimEnd, h]

theorem trimEnd_append {as bs : List α} (hne : bs ≠ []) (h : ∀ b ∈ bs, drop b = false) :
    trimEnd drop (as ++ bs) = as ++ bs := by
  obtain ⟨cs, b, rfl⟩ := List.eq_nil_or_concat bs |>.resolve_left hne
  rw [List.concat_eq_append, ← List.append_assoc]
  exact trimEnd_concat (h b (by simp))

/-- What is trimmed off the end is a run of dropped elements. -/
theorem exists_eq_trimEnd_append (drop : α → Bool) (as : List α) :
    ∃ tail, as = trimEnd drop as ++ tail ∧ ∀ a ∈ tail, drop a = true := by
  refine ⟨(as.reverse.takeWhile drop).reverse, ?_, fun a ha => ?_⟩
  · rw [trimEnd, ← List.reverse_append, List.takeWhile_append_dropWhile, List.reverse_reverse]
  · exact List.mem_takeWhile_imp (List.mem_reverse.1 ha)

theorem trimEnd_append_of_all (as : List α) {tail : List α} (h : ∀ a ∈ tail, drop a = true) :
    trimEnd drop (as ++ tail) = trimEnd drop as := by
  have h' : ∀ a ∈ tail.reverse, drop a = true := fun a ha => h a (List.mem_reverse.1 ha)
  rw [trimEnd, List.reverse_append, List.dropWhile_append_of_pos h', ← trimEnd]

/-- What is left of an end is kept with all that stands before it. -/
theorem trimEnd_append_of_ne_nil (as : List α) {bs : List α} (h : trimEnd drop bs ≠ []) :
    trimEnd drop (as ++ bs) = as ++ trimEnd drop bs := by
  have hrest : bs.reverse.dropWhile drop ≠ [] := fun he => h (by rw [trimEnd, he, List.reverse_nil])
  rw [trimEnd, List.reverse_append, List.dropWhile_append, if_neg (by simpa using hrest), List.reverse_append,
    List.reverse_reverse, ← trimEnd]

theorem trimEnd_trimEnd (drop : α → Bool) (as : List α) : trimEnd drop (trimEnd drop as) = trimEnd drop as := by
  rw [trimEnd, trimEnd, List.reverse_reverse, List.dropWhile_idempotent]

theorem getLast?_trimEnd (as : List α) : ∀ a ∈ (trimEnd drop as).getLast?, drop a = false := by
  intro a ha
  rw [trimEnd, List.getLast?_reverse] at ha
  have hfirst := List.head?_dropWhile_not drop as.reverse
  rw [ha] at hfirst
  simpa using hfirst

theorem trimEnd_eq_self {as : List α} (h : ∀ a ∈ as, drop a = false) : trimEnd drop as = as := by
  rcases List.eq_nil_or_concat as with rfl | ⟨l, a, rfl⟩
  · rfl
  · rw [List.concat_eq_append] at h ⊢
    exact trimEnd_concat (h a (by simp))

/-- An end that stays is kept with all that stands before it. -/
theorem trimEnd_append_of_getLast? {as : List α} (bs : List α) (h : ∀ a ∈ as.getLast?, drop a = false) :
    trimEnd drop (as ++ bs) = as ++ trimEnd drop bs := by
  by_cases hbs : trimEnd drop bs = []
  · obtain ⟨tail, hsplit, htail⟩ := exists_eq_trimEnd_append drop bs
    rw [hbs, List.nil_append] at hsplit
    rw [hbs, List.append_nil, hsplit, trimEnd_append_of_all as htail]
    rcases List.eq_nil_or_concat as with rfl | ⟨l, a, rfl⟩
    · rfl
    · rw [List.concat_eq_append] at h ⊢
      exact trimEnd_concat (h a (by simp))
  · exact trimEnd_append_of_ne_nil as hbs

theorem length_trimEnd_le (drop : α → Bool) (as : List α) : (trimEnd drop as).length ≤ as.length := by
  obtain ⟨tail, hsplit, -⟩ := exists_eq_trimEnd_append drop as
  rw [congrArg List.length hsplit, List.length_append]
  exact Nat.le_add_right ..

theorem mem_of_mem_trimEnd {as : List α} {a : α} (h : a ∈ trimEnd drop as) : a ∈ as := by
  rw [trimEnd, List.mem_reverse] at h
  exact List.mem_reverse.1 ((List.dropWhile_sublist _).mem h)

theorem mem_of_mem_trimBy {as : List α} {a : α} (h : a ∈ trimBy drop as) : a ∈ as :=
  (List.dropWhile_sublist _).mem (mem_of_mem_trimEnd h)

/-- Neither end is dropped. -/
theorem trimBy_eq_self {as : List α} {a b : α} (ha : drop a = false) (hb : drop b = false) :
    trimBy drop (a :: as ++ [b]) = a :: as ++ [b] := by
  have hd : (a :: as ++ [b]).dropWhile drop = a :: as ++ [b] := by simp [ha]
  rw [trimBy, hd]
  exact trimEnd_concat hb

/-- Of what is trimmed nothing more is trimmed. -/
theorem trimBy_trimBy (drop : α → Bool) (as : List α) : trimBy drop (trimBy drop as) = trimBy drop as := by
  have hkept : (trimBy drop as).dropWhile drop = trimBy drop as := by
    cases htrim : trimBy drop as with
    | nil => rfl
    | cons a kept =>
      obtain ⟨tail, hsplit, -⟩ := exists_eq_trimEnd_append drop (as.dropWhile drop)
      have hfirst := List.head?_dropWhile_not drop as
      rw [hsplit, ← trimBy, htrim] at hfirst
      rw [List.dropWhile_cons_of_neg (by simpa using hfirst)]
  rw [trimBy, hkept, trimBy, trimEnd_trimEnd]

theorem trimBy_of_all {as : List α} (h : ∀ a ∈ as, drop a = false) : trimBy drop as = as := by
  have hd : as.dropWhile drop = as := by
    cases as with
    | nil => rfl
    | cons a as => simp [h a (by simp)]
  rw [trimBy, hd]
  exact trimEnd_eq_self h

theorem trimBy_map {β : Type} (drop : β → Bool) (f : α → β) (as : List α) :
    trimBy drop (as.map f) = (trimBy (drop ∘ f) as).map f := by
  simp only [trimBy, trimEnd, List.dropWhile_map, ← List.map_reverse]

/-! ## Pieces -/

theorem piecesBy_map {β : Type} (isSep : β → Bool) (f : α → β) (as : List α) :
    piecesBy isSep (as.map f) = (piecesBy (isSep ∘ f) as).map (List.map f) := by
  induction as with
  | nil => rfl
  | cons a as ih =>
    rw [List.map_cons, piecesBy, piecesBy, ih, Function.comp_apply]
    cases piecesBy (isSep ∘ f) as <;> split <;> rfl

theorem piecesBy_of_all {isSep : α → Bool} {as : List α} (h : ∀ a ∈ as, isSep a = false) :
    piecesBy isSep as = [as] := by
  induction as with
  | nil => rfl
  | cons a as ih =>
    rw [piecesBy, ih fun b hb => h b (List.mem_cons_of_mem _ hb)]
    simp [h a (by simp)]

theorem piecesBy_append {isSep : α → Bool} {as : List α} {a : α} (bs : List α)
    (h : ∀ b ∈ as, isSep b = false) (ha : isSep a = true) :
    piecesBy isSep (as ++ a :: bs) = as :: piecesBy isSep bs := by
  induction as with
  | nil => simp [piecesBy, ha]
  | cons b as ih =>
    rw [List.cons_append, piecesBy, ih fun c hc => h c (List.mem_cons_of_mem _ hc)]
    simp [h b (by simp)]

/-- A piece holds nothing that was not there. -/
theorem mem_of_mem_piecesBy {isSep : α → Bool} {as p : List α} {a : α} (hp : p ∈ piecesBy isSep as)
    (ha : a ∈ p) : a ∈ as := by
  induction as generalizing p with
  | nil =>
    rw [piecesBy, List.mem_singleton] at hp
    exact hp ▸ ha
  | cons b as ih =>
    rw [piecesBy] at hp
    split at hp
    · rcases List.mem_cons.1 hp with rfl | hp
      · cases ha
      · exact List.mem_cons_of_mem _ (ih hp ha)
    · split at hp
      -- the tail has no piece to put the element before
      · rw [List.mem_singleton.1 hp] at ha
        exact List.mem_cons.2 (.inl (List.mem_singleton.1 ha))
      · rename_i q qs hq
        rw [hq] at ih
        rcases List.mem_cons.1 hp with rfl | hp
        · rcases List.mem_cons.1 ha with rfl | ha
          · exact List.mem_cons_self ..
          · exact List.mem_cons_of_mem _ (ih (List.mem_cons_self ..) ha)
        · exact List.mem_cons_of_mem _ (ih (List.mem_cons_of_mem _ hp) ha)

end Cut

namespace Text

open Cut

/-! ## Pieces between separators -/

theorem sep_notMem_of_mem_pieces {sep : Char} {cs p : List Char} (h : p ∈ pieces sep cs) : sep ∉ p := by
  intro hs
  have := not_isSep_of_mem_piecesBy h sep hs
  simp at this

theorem join_append (sep : Char) {ps qs : List (List Char)} (hp : ps ≠ []) (hq : qs ≠ []) :
    join sep (ps ++ qs) = join sep ps ++ sep :: join sep qs := by
  induction ps with
  | nil => exact absurd rfl hp
  | cons p ps ih =>
    cases ps with
    | nil =>
      obtain ⟨q, qs, rfl⟩ := List.exists_cons_of_ne_nil hq
      rfl
    | cons p' ps =>
      have := ih (by simp)
      simp only [List.cons_append, join] at this ⊢
      rw [this, List.append_assoc, List.cons_append]

/-- A separator between two texts divides their pieces. -/
theorem pieces_append (sep : Char) (cs ds : List Char) :
    pieces sep (cs ++ sep :: ds) = pieces sep cs ++ pieces sep ds := by
  -- the pieces of both are put together to the same text
  have hj : cs ++ sep :: ds = join sep (pieces sep cs ++ pieces sep ds) := by
    rw [join_append sep (pieces_ne_nil sep cs) (pieces_ne_nil sep ds), join_pieces, join_pieces]
  rw [hj]
  refine pieces_join (by simp [pieces_ne_nil]) fun p hp => ?_
  rcases List.mem_append.1 hp with hp | hp <;> exact sep_notMem_of_mem_pieces hp

theorem pieces_of_notMem {sep : Char} {cs : List Char} (h : sep ∉ cs) : pieces sep cs = [cs] :=
  piecesBy_of_all fun c hc => by
    rw [beq_eq_false_iff_ne]
    rintro rfl
    exact h hc

theorem join_cons_append (sep : Char) (p q : List Char) (qs : List (List Char)) :
    join sep ((p ++ q) :: qs) = p ++ join sep (q :: qs) := by
  cases qs with
  | nil => rfl
  | cons q' qs => rw [join, join, List.append_assoc]

/-- Between two texts without a separator between them the last piece of the first goes on with the first of
the second. -/
theorem pieces_append_of_pieces {sep : Char} {cs ds p q : List Char} {ps qs : List (List Char)}
    (hcs : pieces sep cs = ps ++ [p]) (hds : pieces sep ds = q :: qs) :
    pieces sep (cs ++ ds) = ps ++ (p ++ q) :: qs := by
  have hjoin : cs ++ ds = join sep (ps ++ (p ++ q) :: qs) := by
    rw [← join_pieces sep cs, ← join_pieces sep ds, hcs, hds]
    rcases eq_or_ne ps [] with rfl | hps
    · exact (join_cons_append sep p q qs).symm
    · rw [join_append sep hps (by simp), join_append sep hps (by simp), join_cons_append, List.append_assoc]
      rfl
  have hfree : ∀ r ∈ ps ++ (p ++ q) :: qs, sep ∉ r := by
    have hfirst : ∀ r ∈ ps ++ [p], sep ∉ r := fun r hr => sep_notMem_of_mem_pieces (hcs ▸ hr)
    have hsecond : ∀ r ∈ q :: qs, sep ∉ r := fun r hr => sep_notMem_of_mem_pieces (hds ▸ hr)
    grind
  rw [hjoin, pieces_join (by simp) hfree]

/-- The last piece is empty exactly behind a separator. -/
theorem getLast?_eq_some_iff_of_pieces {sep : Char} {cs p : List Char} {ps : List (List Char)} (hne : cs ≠ [])
    (h : pieces sep cs = ps ++ [p]) : cs.getLast? = some sep ↔ p = [] := by
  obtain ⟨cs, c, rfl⟩ := (List.eq_nil_or_concat cs).resolve_left hne
  rw [List.concat_eq_append] at h ⊢
  rw [List.getLast?_concat, Option.some_inj]
  rcases eq_or_ne c sep with rfl | hc
  · rw [pieces_append] at h
    exact iff_of_true rfl (List.append_inj_right' h rfl |> List.singleton_inj.1).symm
  · obtain ⟨ps', p', hcs⟩ := (List.eq_nil_or_concat (pieces sep cs)).resolve_left (pieces_ne_nil sep cs)
    rw [List.concat_eq_append] at hcs
    rw [pieces_append_of_pieces hcs (pieces_of_notMem (by simpa using hc.symm))] at h
    have hp : p' ++ [c] = p := List.singleton_inj.1 (List.append_inj_right' h rfl)
    exact iff_of_false hc (by simp [← hp])

/-- The first piece begins with the text, unless a separator does. -/
theorem head?_of_pieces {sep c : Char} {cs p : List Char} {ps : List (List Char)}
    (h : pieces sep (c :: cs) = p :: ps) : (c = sep ↔ p = []) ∧ ∀ a ∈ p.head?, a = c := by
  rcases eq_or_ne c sep with rfl | hc
  · rw [← List.nil_append (c :: cs), pieces_append] at h
    obtain rfl : [] = p := (List.cons.inj h).1
    exact ⟨iff_of_true rfl rfl, nofun⟩
  · obtain ⟨q, qs, hcs⟩ := List.exists_cons_of_ne_nil (pieces_ne_nil sep cs)
    have hsingle : pieces sep [c] = [] ++ [[c]] := pieces_of_notMem (by simpa using hc.symm)
    have happend := pieces_append_of_pieces hsingle hcs
    rw [List.singleton_append, h] at happend
    obtain rfl : p = [c] ++ q := (List.cons.inj happend).1
    exact ⟨iff_of_false hc (by simp), fun a ha => (Option.some.inj ha).symm⟩

/-! ## The first mark -/

/-- No proper end of the mark is its beginning as well, so two of its occurrences never overlap. -/
def Borderless (mark : List Char) : Prop := ∀ k < mark.length, 0 < k → ¬ mark.drop k <+: mark

theorem borderless_singleton (d : Char) : Borderless [d] := by
  intro k hlt hpos
  rw [List.length_singleton] at hlt
  omega

/-- A mark that follows a text without it begins nowhere earlier. -/
theorem Borderless.eq_nil_of_append {mark before after rest : List Char} (hb : Borderless mark)
    (hbefore : ¬ mark <:+: before) (h : before ++ mark ++ after = mark ++ rest) : before = [] := by
  by_contra hne
  -- the text before is a beginning of the mark, and what is left of the mark begins the mark behind it
  have hlong : ¬ mark <+: before := fun hp => hbefore hp.isInfix
  have hprefix : before <+: mark := by
    have hboth : before <+: mark ++ rest := ⟨mark ++ after, by rw [← h, List.append_assoc]⟩
    exact (List.prefix_or_prefix_of_prefix hboth (List.prefix_append mark rest)).resolve_right hlong
  obtain ⟨tail, hmark⟩ := hprefix
  have htail : tail ≠ [] := by
    rintro rfl
    exact hlong ⟨[], by rw [← hmark, List.append_nil, List.append_nil]⟩
  have hdrop : mark.drop before.length = tail := by rw [← hmark, List.drop_left]
  refine hb before.length ?_ (List.length_pos_iff.2 hne) ?_
  · rw [← hmark, List.length_append]
    have := List.length_pos_iff.2 htail
    omega
  · have hrest : mark ++ after = tail ++ rest := by
      have h' : before ++ (mark ++ after) = before ++ (tail ++ rest) := by
        rw [← List.append_assoc, h, ← List.append_assoc, hmark]
      exact List.append_cancel_left h'
    have hbegins : tail <+: mark ++ after := ⟨rest, hrest.symm⟩
    rw [hdrop]
    refine List.prefix_of_prefix_length_le hbegins (List.prefix_append mark after) ?_
    rw [← hmark, List.length_append]
    omega

theorem isPrefixOf?_eq_none_iff {mark cs : List Char} : mark.isPrefixOf? cs = none ↔ ¬ mark <+: cs := by
  rw [← Option.isNone_iff_eq_none, ← Option.not_isSome, List.isSome_isPrefixOf?_eq_isPrefixOf, Bool.not_eq_true',
    ← List.isPrefixOf_iff_prefix, Bool.not_eq_true]

theorem cutFirst_eq_some_iff {mark cs before after : List Char} (hne : mark ≠ []) (hb : Borderless mark) :
    cutFirst mark cs = some (before, after) ↔ cs = before ++ mark ++ after ∧ ¬ mark <:+: before := by
  induction cs generalizing before with
  | nil =>
    rw [cutFirst, if_neg hne]
    refine ⟨nofun, fun ⟨h, _⟩ => ?_⟩
    rw [List.nil_eq, List.append_eq_nil_iff, List.append_eq_nil_iff] at h
    exact absurd h.1.2 hne
  | cons c cs ih =>
    rw [cutFirst]
    cases hp : mark.isPrefixOf? (c :: cs) with
    | some rest =>
      have hrest := List.isPrefixOf?_eq_some_iff_append_eq.1 hp
      simp only [Option.some.injEq, Prod.mk.injEq]
      constructor
      · rintro ⟨rfl, rfl⟩
        exact ⟨by rw [List.nil_append, hrest], fun h => hne (List.infix_nil.1 h)⟩
      · rintro ⟨h, hbefore⟩
        obtain rfl := hb.eq_nil_of_append hbefore (h.symm.trans hrest.symm)
        rw [List.nil_append] at h
        exact ⟨rfl, List.append_cancel_left (hrest.trans h)⟩
    | none =>
      have hno := isPrefixOf?_eq_none_iff.1 hp
      simp only [Option.map_eq_some_iff, Prod.exists, Prod.mk.injEq]
      constructor
      · rintro ⟨b, a, hcut, rfl, rfl⟩
        obtain ⟨rfl, hinfix⟩ := ih.1 hcut
        refine ⟨by simp, fun h => ?_⟩
        rcases List.infix_cons_iff.1 h with h | h
        · exact hno (h.trans ⟨mark ++ a, by simp⟩)
        · exact hinfix h
      · rintro ⟨h, hinfix⟩
        cases before with
        | nil => exact absurd ⟨after, by simpa using h.symm⟩ hno
        | cons b bs =>
          rw [List.cons_append, List.cons_append, List.cons.injEq] at h
          obtain ⟨rfl, rfl⟩ := h
          exact ⟨bs, after, ih.2 ⟨rfl, fun hi => hinfix (List.infix_cons hi)⟩, rfl, rfl⟩

theorem cutFirst_eq_none_iff {mark cs : List Char} (hne : mark ≠ []) : cutFirst mark cs = none ↔ ¬ mark <:+: cs := by
  induction cs with
  | nil => simp [cutFirst, hne]
  | cons c cs ih =>
    rw [cutFirst, List.infix_cons_iff]
    cases hp : mark.isPrefixOf? (c :: cs) with
    | some rest =>
      have hprefix : mark <+: c :: cs := ⟨rest, List.isPrefixOf?_eq_some_iff_append_eq.1 hp⟩
      exact iff_of_false nofun fun h => h (.inl hprefix)
    | none =>
      simp only [Option.map_eq_none_iff, ih, isPrefixOf?_eq_none_iff.1 hp, false_or]

theorem cutFirst_singleton_eq_some_iff {d : Char} {cs before after : List Char} :
    cutFirst [d] cs = some (before, after) ↔ cs = before ++ d :: after ∧ d ∉ before := by
  rw [cutFirst_eq_some_iff (by simp) (borderless_singleton d), List.append_assoc, List.singleton_append]
  simp [List.singleton_infix_iff]

theorem cutFirst_singleton_eq_none_iff {d : Char} {cs : List Char} : cutFirst [d] cs = none ↔ d ∉ cs := by
  rw [cutFirst_eq_none_iff (by simp), List.singleton_infix_iff]

/-! ## The last mark -/

theorem cutLast_eq_none_iff {mark : Char} {cs : List Char} : cutLast mark cs = none ↔ mark ∉ cs := by
  induction cs with
  | nil => simp [cutLast]
  | cons c cs ih =>
    rw [cutLast]
    cases h : cutLast mark cs with
    | some cut =>
      have hm : mark ∈ cs := by
        by_contra hm
        rw [ih.2 hm] at h
        cases h
      simp [hm]
    | none =>
      have hm := ih.1 h
      by_cases hc : c = mark
      · simp [hc]
      · simp [hc, hm, Ne.symm hc]

theorem cutLast_append {mark : Char} (before : List Char) {after : List Char} (h : mark ∉ after) :
    cutLast mark (before ++ mark :: after) = some (before, after) := by
  induction before with
  | nil => simp [cutLast, cutLast_eq_none_iff.2 h]
  | cons c cs ih => rw [List.cons_append, cutLast, ih]

theorem cutLast_eq_some_iff {mark : Char} {cs before after : List Char} :
    cutLast mark cs = some (before, after) ↔ cs = before ++ mark :: after ∧ mark ∉ after := by
  constructor
  · intro h
    induction cs generalizing before with
    | nil => cases h
    | cons c cs ih =>
      rw [cutLast] at h
      cases hc : cutLast mark cs with
      | some cut =>
        rw [hc] at h
        cases h
        obtain ⟨h1, h2⟩ := ih hc
        exact ⟨by rw [h1, List.cons_append], h2⟩
      | none =>
        rw [hc] at h
        dsimp only at h
        split at h
        · rename_i he
          cases h
          exact ⟨by rw [he, List.nil_append], cutLast_eq_none_iff.1 hc⟩
        · cases h
  · rintro ⟨rfl, h⟩
    exact cutLast_append before h

/-! ## Words -/

/-- A text that can stand as one word. -/
def IsWord (w : List Char) : Prop := w ≠ [] ∧ ∀ c ∈ w, isBlank c = false

theorem isWord_of_mem_words {cs w : List Char} (h : w ∈ words cs) : IsWord w := ⟨words_nonempty h, words_noBlank h⟩

/-- A text that begins with a word begins with no blank. -/
theorem IsWord.noBlank_head? {w : List Char} (hw : IsWord w) (rest : List Char) :
    ∀ c ∈ (w ++ rest).head?, isBlank c = false := by
  intro c hc
  rw [List.head?_append_of_ne_nil w hw.1] at hc
  exact hw.2 c (List.mem_of_mem_head? hc)

theorem isWord_cons {c : Char} {w : List Char} (hc : isBlank c = false) (hw : ∀ c ∈ w, isBlank c = false) :
    IsWord (c :: w) :=
  ⟨List.cons_ne_nil c w, List.forall_mem_cons.2 ⟨hc, hw⟩⟩

/-- Of a given text it is checked character by character that it holds no blank. -/
theorem noBlank_of_all {w : List Char} (h : w.all (!isBlank ·) = true) : ∀ c ∈ w, isBlank c = false := by
  simpa using h

/-- Text without blanks is its own only word. -/
theorem words_of_noBlank {w : List Char} (hw : w ≠ []) (h : ∀ c ∈ w, isBlank c = false) : words w = [w] := by
  simp [words, piecesBy_of_all h, hw]

/-- A blank ends the first word. -/
theorem words_append {w : List Char} {c : Char} (cs : List Char) (hw : w ≠ [])
    (h : ∀ c ∈ w, isBlank c = false) (hc : isBlank c = true) : words (w ++ c :: cs) = w :: words cs := by
  simp [words, piecesBy_append cs h hc, hw]

/-- Blanks before a text are of no word. -/
theorem words_append_of_blank {gap : List Char} (h : ∀ c ∈ gap, isBlank c = true) (cs : List Char) :
    words (gap ++ cs) = words cs := by
  induction gap with
  | nil => rfl
  | cons c gap ih =>
    rw [List.forall_mem_cons] at h
    rw [List.cons_append, ← ih h.2, words, piecesBy, if_pos h.1, List.filter_cons_of_neg (by simp), ← words]

end Text

end SeriesCatalog
