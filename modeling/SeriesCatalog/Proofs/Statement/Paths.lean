/-
The paths of an accepted statement. Each is rooted, and a path that takes up one word has no blank. Only the
deletion of databases reads its paths from several words: there the parts of the list are what stands between
commas, so two neighbouring words without a comma between them are read as one path with a blank in it.
-/
import SeriesCatalog.Proofs.Statement.Made

namespace SeriesCatalog

namespace Statement

open Text

/-- All paths in a statement. -/
def mentioned : Statement → List Path
  | createDatabase p | createSeries p _ | deleteSeries p => [p]
  | deleteDatabases ps => ps
  | showDatabases o | showDevices o | showSeries o => o.toList

/-- A comma parts the two words, as the last character of the one or the first of the other. -/
def Parted (u v : List Char) : Prop := u.getLast? = some ',' ∨ v.head? = some ','

instance (u v : List Char) : Decidable (Parted u v) := inferInstanceAs (Decidable (_ ∨ _))

/-! ## Parts of a list -/

/-- A blank between two texts without blanks at that end stays, if there is anything on both sides. -/
theorem noBlank_trim_iff {cs ds : List Char} (hcs : ∀ c ∈ cs, isBlank c = false)
    (hds : ∀ d ∈ ds.head?, isBlank d = false) :
    (∀ c ∈ trim (cs ++ ' ' :: ds), isBlank c = false) ↔
      (cs = [] ∨ ds = []) ∧ ∀ d ∈ trim ds, isBlank d = false := by
  rcases eq_or_ne cs [] with rfl | hcsne
  · have htrim : trim ([] ++ ' ' :: ds) = trim ds := by
      rw [trim, Cut.trimBy, List.nil_append, List.dropWhile_cons_of_pos (by decide), ← Cut.trimBy, ← trim]
    rw [htrim, and_iff_right (.inl rfl)]
  obtain ⟨c, cs, rfl⟩ := List.exists_cons_of_ne_nil hcsne
  have hstart : ∀ rest, (c :: cs ++ rest).dropWhile isBlank = c :: cs ++ rest := by
    intro rest
    rw [List.cons_append, List.dropWhile_cons_of_neg (by simp [hcs c (by simp)])]
  rcases eq_or_ne ds [] with rfl | hdsne
  · refine iff_of_true (fun d hd => ?_) ⟨.inr rfl, List.forall_mem_nil _⟩
    rw [trim, Cut.trimBy, hstart, Cut.trimEnd_append_of_all _ (List.forall_mem_singleton.2 (by decide))] at hd
    exact hcs d (Cut.mem_of_mem_trimEnd hd)
  · obtain ⟨d, ds, rfl⟩ := List.exists_cons_of_ne_nil hdsne
    have hd : isBlank d = false := hds d rfl
    have hend : Cut.trimEnd isBlank (d :: ds) ≠ [] := by
      intro hnil
      obtain ⟨tail, hsplit, htail⟩ := Cut.exists_eq_trimEnd_append isBlank (d :: ds)
      rw [hnil, List.nil_append] at hsplit
      rw [htail d (hsplit ▸ List.mem_cons_self ..)] at hd
      cases hd
    have htrim : trim (c :: cs ++ ' ' :: d :: ds) = c :: cs ++ [' '] ++ Cut.trimEnd isBlank (d :: ds) := by
      rw [trim, Cut.trimBy, hstart, List.append_cons, Cut.trimEnd_append_of_ne_nil _ hend]
    refine iff_of_false (fun h => ?_) (by simp)
    have hblank := h ' ' (by rw [htrim]; simp)
    cases hblank

/-- Where one word ends and the next begins, a piece of each makes one piece with the blank between them. -/
theorem exists_pieces_join {u v : List Char} (ws : List (List Char)) (hu : IsWord u) (hv : IsWord v) :
    ∃ ps p q qs, pieces ',' u = ps ++ [p] ∧ pieces ',' (join ' ' (v :: ws)) = q :: qs ∧
      pieces ',' (join ' ' (u :: v :: ws)) = ps ++ (p ++ ' ' :: q) :: qs ∧
      (u.getLast? = some ',' ↔ p = []) ∧ (v.head? = some ',' ↔ q = []) ∧ ∀ d ∈ q.head?, isBlank d = false := by
  obtain ⟨ps, p, hlast⟩ := (List.eq_nil_or_concat (pieces ',' u)).resolve_left (pieces_ne_nil ',' u)
  obtain ⟨q, qs, hfirst⟩ := List.exists_cons_of_ne_nil (pieces_ne_nil ',' (join ' ' (v :: ws)))
  rw [List.concat_eq_append] at hlast
  have hspace : pieces ',' (' ' :: join ' ' (v :: ws)) = (' ' :: q) :: qs := by
    have hblank : pieces ',' [' '] = [] ++ [[' ']] := rfl
    exact pieces_append_of_pieces hblank hfirst
  obtain ⟨c, v, rfl⟩ := List.exists_cons_of_ne_nil hv.1
  have hbegins : ∃ rest, join ' ' ((c :: v) :: ws) = c :: rest := by cases ws <;> exact ⟨_, rfl⟩
  obtain ⟨rest, hbegins⟩ := hbegins
  obtain ⟨hnil, hhead⟩ := head?_of_pieces (hbegins ▸ hfirst)
  refine ⟨ps, p, q, qs, hlast, hfirst, pieces_append_of_pieces hlast hspace,
    getLast?_eq_some_iff_of_pieces hu.1 hlast, ?_,
    fun d hd => hhead d hd ▸ hv.2 c (List.mem_cons_self ..)⟩
  rw [List.head?_cons, Option.some_inj, hnil]

/-- The pieces of words in a row have no blanks inside exactly if a comma parts any two neighbours. -/
theorem noBlank_trim_pieces_iff {ws : List (List Char)} (hws : ∀ w ∈ ws, IsWord w) :
    (∀ piece ∈ pieces ',' (join ' ' ws), ∀ c ∈ trim piece, isBlank c = false) ↔ ws.IsChain Parted := by
  have hword : ∀ {u : List Char}, IsWord u → ∀ piece ∈ pieces ',' u, ∀ c ∈ piece, isBlank c = false :=
    fun hu piece hpiece c hc => hu.2 c (Cut.mem_of_mem_piecesBy hpiece hc)
  induction ws with
  | nil => exact iff_of_true (by simp [join, pieces, Cut.piecesBy, trim, Cut.trimBy, Cut.trimEnd]) .nil
  | cons u ws ih =>
    obtain ⟨hu, hws⟩ := List.forall_mem_cons.1 hws
    cases ws with
    | nil =>
      exact iff_of_true (fun piece hpiece c hc => hword hu piece hpiece c (Cut.mem_of_mem_trimBy hc)) (.singleton u)
    | cons v ws =>
      obtain ⟨ps, p, q, qs, hlast, hfirst, hpieces, hcomma, hcomma', hq⟩ :=
        exists_pieces_join ws hu (hws v (List.mem_cons_self ..))
      have hps : ∀ piece ∈ ps, ∀ c ∈ trim piece, isBlank c = false := fun piece hpiece c hc =>
        hword hu piece (hlast ▸ List.mem_append_left _ hpiece) c (Cut.mem_of_mem_trimBy hc)
      have hp : ∀ c ∈ p, isBlank c = false := hword hu p (hlast ▸ List.mem_append_right _ (List.mem_singleton_self p))
      have hrest := ih hws
      rw [hfirst, List.forall_mem_cons] at hrest
      rw [hpieces, List.forall_mem_append, and_iff_right hps, List.forall_mem_cons, noBlank_trim_iff hp hq, and_assoc,
        List.isChain_cons_cons, Parted, hcomma, hcomma']
      exact and_congr_right fun _ => hrest

/-- The parts of a list have no blanks exactly if a comma parts any two neighbouring words. -/
theorem noBlank_listed_iff {ws : List (List Char)} (hws : ∀ w ∈ ws, IsWord w) :
    (∀ part ∈ listed (join ' ' ws), ∀ c ∈ part, isBlank c = false) ↔ ws.IsChain Parted := by
  rw [← noBlank_trim_pieces_iff hws]
  constructor
  · intro h piece hpiece c hc
    refine h (trim piece) (List.mem_filter.2 ⟨List.mem_map_of_mem hpiece, ?_⟩) c hc
    simpa using List.ne_nil_of_mem hc
  · intro h part hpart
    obtain ⟨piece, hpiece, rfl⟩ := List.mem_map.1 (List.mem_filter.1 hpart).1
    exact h piece hpiece

/-- Each path of a list is one of its parts. -/
theorem map_text_of_paths {ws : List (List Char)} {ps : List Path} (h : paths ws = .ok ps) :
    ps.map (·.text.toList) = listed (join ' ' ws) := by
  have htext : ∀ part ∈ listed (join ' ' ws), ∀ p, path part = .ok p → p.text.toList = id part := by
    intro part hpart p hp
    obtain ⟨piece, hpiece, rfl⟩ := List.mem_map.1 (List.mem_filter.1 hpart).1
    have hcomma : ',' ∉ trim piece := fun hc => sep_notMem_of_mem_pieces hpiece (Cut.mem_of_mem_trimBy hc)
    have hself : Cut.trimEnd (· == ',') (trim (trim piece)) = trim piece := by
      rw [trim, trim, Cut.trimBy_trimBy, ← trim, Cut.trimEnd_eq_self]
      exact fun c hc => beq_false_of_ne fun he => hcomma (he ▸ hc)
    rw [(text_of_path hp).1, hself]
    rfl
  rw [map_eq_of_mapM h htext, List.map_id]

/-! ## Statements -/

/-- A deletion of databases is read from all words behind its opening. -/
theorem exists_paths_of_parse {sql : String} {ps : List Path} (h : parse sql = .ok (.deleteDatabases ps)) :
    ∃ ks front tail, ks ∈ listOpenings ∧ Spells front ks ∧
      words (core sql.toList) = front ++ tail ∧ paths tail = .ok ps := by
  obtain ⟨ks, front, tail, hwords, hfront, hreads⟩ := exists_reads_of_ofWords? (parse_eq_ok_iff.1 h)
  generalize hr : Except.ok (Statement.deleteDatabases ps) = r at hreads
  cases hreads with
  | complete h =>
    cases hr
    simp [completeForms] at h
  | onPath h w =>
    obtain ⟨p, -, he⟩ := map_eq_ok_iff.1 hr.symm
    have hmake : ∀ form ∈ pathForms, form.2 p ≠ .deleteDatabases ps := by simp [pathForms]
    exact absurd he (hmake _ h)
  | onList h hne =>
    obtain ⟨ps', hps, he⟩ := map_eq_ok_iff.1 hr.symm
    cases he
    exact ⟨ks, front, tail, h, hfront, hwords, hps⟩
  | creation w =>
    obtain ⟨p, info, -, -, he⟩ := exists_of_creation hr.symm
    cases he

/-- Each path of any other statement is read from one word. -/
theorem MadeFrom.exists_word {ws : List (List Char)} {st : Statement} (h : MadeFrom ws st)
    (hst : ∀ ps, st ≠ .deleteDatabases ps)
    {p : Path} (hp : p ∈ st.mentioned) : ∃ w ∈ ws, path w = .ok p := by
  cases h with
  | createDatabase hw hpath | createSeries _ hw hpath _ | deleteSeries hw hpath =>
    exact ⟨_, hw, List.mem_singleton.1 hp ▸ hpath⟩
  | deleteDatabases => exact absurd rfl (hst _)
  | showDatabases ho | showDevices ho | showSeries ho => exact ho p (Option.mem_toList.1 hp)

/-- Every path of an accepted statement is rooted; one of them has a blank exactly if the statement is a deletion of
databases with two neighbouring words in its list that no comma parts. -/
theorem mentioned_of_parse {sql : String} {st : Statement} (h : parse sql = .ok st) :
    (∀ p ∈ st.mentioned, p.Rooted) ∧
      ((∃ p ∈ st.mentioned, ∃ c ∈ p.text.toList, isBlank c = true) ↔
        ∃ ps ks front tail, st = .deleteDatabases ps ∧ ks ∈ listOpenings ∧ Spells front ks ∧
          words (core sql.toList) = front ++ tail ∧ ¬ tail.IsChain Parted) := by
  by_cases hst : ∃ ps, st = .deleteDatabases ps
  · obtain ⟨ps, rfl⟩ := hst
    obtain ⟨ks, front, tail, hks, hfront, hwords, hps⟩ := exists_paths_of_parse h
    have hopening : ∀ ks ∈ listOpenings, ks ∈ openings := fun ks hks =>
      List.mem_cons_of_mem _ (List.mem_append_left _ hks)
    refine ⟨fun p hp => ?_, ?_⟩
    · obtain ⟨part, -, hpart⟩ := exists_of_mem_mapM hps hp
      exact (rooted_of_path hpart).1
    · have hchain : (∃ p ∈ ps, ∃ c ∈ p.text.toList, isBlank c = true) ↔ ¬ tail.IsChain Parted := by
        rw [← noBlank_listed_iff fun w hw => isWord_of_mem_words (hwords ▸ List.mem_append_right front hw),
          ← map_text_of_paths hps]
        simp
      rw [mentioned, hchain]
      constructor
      · exact fun htail => ⟨ps, ks, front, tail, rfl, hks, hfront, hwords, htail⟩
      · rintro ⟨ps', ks', front', tail', -, hks', hfront', hwords', htail⟩
        obtain ⟨-, -, rfl⟩ := hfront.unique hfront' (hopening ks hks) (hopening ks' hks') (hwords.symm.trans hwords')
        exact htail
  · push Not at hst
    have hpath : ∀ p ∈ st.mentioned, p.Rooted ∧ ∀ c ∈ p.text.toList, isBlank c = false := by
      intro p hp
      obtain ⟨w, hw, hread⟩ := (madeFrom_of_parse h).exists_word hst hp
      obtain ⟨hroot, hmem⟩ := rooted_of_path hread
      exact ⟨hroot, fun c hc => words_noBlank hw c (hmem c hc)⟩
    refine ⟨fun p hp => (hpath p hp).1, iff_of_false ?_ ?_⟩
    · rintro ⟨p, hp, c, hc, hblank⟩
      rw [(hpath p hp).2 c hc] at hblank
      cases hblank
    · rintro ⟨ps, -, -, -, rfl, -⟩
      exact hst ps rfl

/-- Of three words with one comma between them two paths are read, the second of them with a blank. -/
theorem mentioned_of_parse_deletion :
    parse "delete database root.a, root.b root.c" = .ok (.deleteDatabases [⟨"root.a"⟩, ⟨"root.b root.c"⟩]) ∧
      (∀ p ∈ (deleteDatabases [⟨"root.a"⟩, ⟨"root.b root.c"⟩]).mentioned, p.Rooted) ∧
      ∃ p ∈ (deleteDatabases [⟨"root.a"⟩, ⟨"root.b root.c"⟩]).mentioned, ∃ c ∈ p.text.toList, isBlank c = true := by
  have hparse : parse "delete database root.a, root.b root.c" =
      .ok (.deleteDatabases [⟨"root.a"⟩, ⟨"root.b root.c"⟩]) := by decide +kernel
  obtain ⟨hrooted, hblank⟩ := mentioned_of_parse hparse
  refine ⟨hparse, hrooted, hblank.2 ⟨_, [.delete, .database], ["delete".toList, "database".toList],
    ["root.a,".toList, "root.b".toList, "root.c".toList], rfl, by decide, rfl, ?_, ?_⟩⟩
  · decide +kernel
  · decide +kernel

/-- So an accepted statement may hold a path that is none. -/
theorem blank_of_missing_comma :
    parse "delete database root.a root.b" = .ok (.deleteDatabases [⟨"root.a root.b"⟩]) ∧
      ∃ p ∈ (deleteDatabases [⟨"root.a root.b"⟩]).mentioned, ∃ c ∈ p.text.toList, isBlank c = true :=
  ⟨by decide +kernel, _, List.mem_singleton_self _, ' ', by decide +kernel, by decide⟩

end Statement

end SeriesCatalog
