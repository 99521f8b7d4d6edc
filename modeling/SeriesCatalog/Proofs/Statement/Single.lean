/-
Statements that end in one word. What the word spells depends on where it stands: semicolons at the
end of the statement are not of the word, commas at the end of a path are not of the path, and the
deletion of databases takes the word for a list between commas. So the creation of a path and its
deletion are read here side by side, each from the word that spells the path.
-/
import SeriesCatalog.Proofs.Statement.Listing

namespace SeriesCatalog

namespace Statement

open Text

variable {w : List Char} {p : Path} {s : String}

/-! ## Words that spell paths -/

/-- A word spells the path of its characters without the commas at its end. -/
theorem path_eq_ok_iff (hw : ∀ c ∈ w, isBlank c = false) :
    path w = .ok p ↔ p.text.toList = Cut.trimEnd (· == ',') w ∧ p.Rooted := by
  have htrim : trim w = w := Cut.trimBy_of_all hw
  constructor
  · intro h
    rw [← htrim]
    exact text_of_path h
  · rintro ⟨htext, hroot⟩
    have hp : Path.mk (String.ofList (Cut.trimEnd (· == ',') w)) = p :=
      Path.ext_text (by rw [← htext, String.ofList_toList])
    unfold path
    dsimp only
    rw [htrim, hp, if_neg (by simpa using hroot.root), if_neg (by simpa using hroot.noEmptyNode)]

/-- A word holds nothing but its path and commas. -/
theorem mem_or_eq_comma_of_path (hw : ∀ c ∈ w, isBlank c = false) (h : path w = .ok p) {c : Char} (hc : c ∈ w) :
    c ∈ p.text.toList ∨ c = ',' := by
  obtain ⟨tail, hsplit, htail⟩ := Cut.exists_eq_trimEnd_append (· == ',') w
  rw [hsplit, ← ((path_eq_ok_iff hw).1 h).1, List.mem_append] at hc
  exact hc.imp_right fun hc => by simpa using htail c hc

/-! ## Lists of one word -/

/-- Commas alone have empty pieces only. -/
theorem filter_pieces_of_all {tail : List Char} (h : ∀ c ∈ tail, c = ',') :
    (pieces ',' tail).filter (· ≠ []) = [] := by
  induction tail with
  | nil => rfl
  | cons c tail ih =>
    obtain ⟨rfl, htail⟩ := List.forall_mem_cons.1 h
    have hsplit : pieces ',' (',' :: tail) = [] :: pieces ',' tail := pieces_append ',' [] tail
    rw [hsplit, List.filter_cons_of_neg (by simp), ih htail]

/-- The parts of a word are its pieces between commas. -/
theorem listed_of_noBlank (hw : ∀ c ∈ w, isBlank c = false) : listed w = (pieces ',' w).filter (· ≠ []) := by
  have htrim : (pieces ',' w).map trim = (pieces ',' w).map id :=
    List.map_congr_left fun piece hpiece => Cut.trimBy_of_all fun c hc => hw c (Cut.mem_of_mem_piecesBy hpiece hc)
  rw [listed, htrim, List.map_id]

/-- A word without commas but for its end has one part. -/
theorem listed_eq_singleton (hw : ∀ c ∈ w, isBlank c = false) (hne : Cut.trimEnd (· == ',') w ≠ [])
    (hcomma : ',' ∉ Cut.trimEnd (· == ',') w) : listed w = [Cut.trimEnd (· == ',') w] := by
  obtain ⟨tail, hsplit, hall⟩ := Cut.exists_eq_trimEnd_append (· == ',') w
  have hall : ∀ c ∈ tail, c = ',' := by simpa using hall
  rw [listed_of_noBlank hw]
  generalize Cut.trimEnd (· == ',') w = cs at *
  rw [hsplit]
  cases tail with
  | nil => simp [pieces_of_notMem hcomma, hne]
  | cons c tail =>
    obtain ⟨rfl, htail⟩ := List.forall_mem_cons.1 hall
    rw [pieces_append, List.filter_append, filter_pieces_of_all htail, pieces_of_notMem hcomma]
    simp [hne]

theorem paths_singleton : paths [w] = (listed w).mapM path := rfl

/-- A word without commas but for its end lists the path that it spells. -/
theorem paths_eq_singleton (hw : ∀ c ∈ w, isBlank c = false) (hp : path w = .ok p) (hcomma : ',' ∉ p.text.toList) :
    paths [w] = .ok [p] := by
  obtain ⟨htext, hroot⟩ := (path_eq_ok_iff hw).1 hp
  have hself : path p.text.toList = .ok p := by
    refine (path_eq_ok_iff fun c hc => hw c (Cut.mem_of_mem_trimEnd (htext ▸ hc))).2 ⟨?_, hroot⟩
    refine (Cut.trimEnd_eq_self fun c hc => beq_false_of_ne ?_).symm
    rintro rfl
    exact hcomma hc
  have hne : p.text.toList ≠ [] := by
    intro he
    rw [he] at hself
    cases hself
  rw [paths_singleton, listed_eq_singleton hw (htext ▸ hne) (htext ▸ hcomma), ← htext, List.mapM_cons, hself]
  rfl

/-- No path of a list holds a comma, or any character that the list does not hold. -/
theorem notMem_of_mem_paths {ps : List Path} (hw : ∀ c ∈ w, isBlank c = false) (h : paths [w] = .ok ps) (hp : p ∈ ps) :
    ',' ∉ p.text.toList ∧ ∀ c ∈ p.text.toList, c ∈ w := by
  obtain ⟨part, hpart, hread⟩ := exists_of_mem_mapM (paths_singleton ▸ h) hp
  rw [listed_of_noBlank hw] at hpart
  have hpiece : part ∈ pieces ',' w := (List.mem_filter.1 hpart).1
  have hmem := (rooted_of_path hread).2
  exact ⟨fun hc => sep_notMem_of_mem_pieces hpiece (hmem _ hc), fun c hc => Cut.mem_of_mem_piecesBy hpiece (hmem c hc)⟩

/-! ## Statements that end in a word -/

/-- A word at the end of a statement without the semicolons behind it, which are not of the statement. -/
def lastWord (s : String) : List Char := Cut.trimEnd (· == ';') s.toList

theorem exists_eq_lastWord_append (s : String) : ∃ n, s.toList = lastWord s ++ List.replicate n ';' := by
  obtain ⟨tail, hsplit, htail⟩ := Cut.exists_eq_trimEnd_append (· == ';') s.toList
  exact ⟨tail.length, by rw [← List.eq_replicate_length.2 (by simpa using htail)]; exact hsplit⟩

theorem noBlank_lastWord (hs : ∀ c ∈ s.toList, isBlank c = false) : ∀ c ∈ lastWord s, isBlank c = false :=
  fun c hc => hs c (Cut.mem_of_mem_trimEnd hc)

/-- A word that does not end in a semicolon is read whole. -/
theorem lastWord_eq_self (h : s.toList.getLast? ≠ some ';') : lastWord s = s.toList := by
  rcases List.eq_nil_or_concat s.toList with hnil | ⟨cs, c, hcs⟩
  · rw [lastWord, hnil]
    rfl
  · rw [List.concat_eq_append] at hcs
    rw [hcs, List.getLast?_concat, Ne, Option.some_inj] at h
    rw [lastWord, hcs]
    exact Cut.trimEnd_concat (beq_false_of_ne h)

/-- Before a semicolon a path takes up the whole word, but the end of a statement does not. -/
theorem ne_of_getLast?_semicolon {q : Path} (h : s.toList.getLast? = some ';') (hs : ∀ c ∈ s.toList, isBlank c = false)
    (hq : path s.toList = .ok q) (hp : path (lastWord s) = .ok p) : p ≠ q := by
  rintro rfl
  obtain ⟨cs, hcs⟩ := List.getLast?_eq_some_iff.1 h
  have hwhole : p.text.toList = cs ++ [';'] := by
    rw [((path_eq_ok_iff hs).1 hq).1, hcs, Cut.trimEnd_concat (by decide)]
  have hlast : p.text.toList = Cut.trimEnd (· == ',') (Cut.trimEnd (· == ';') cs) := by
    rw [((path_eq_ok_iff (noBlank_lastWord hs)).1 hp).1, lastWord, hcs, Cut.trimEnd_append_of_all cs (by simp)]
  have hlength := (Cut.length_trimEnd_le (· == ',') (Cut.trimEnd (· == ';') cs)).trans (Cut.length_trimEnd_le _ cs)
  rw [← hlast, hwhole, List.length_append, List.length_singleton] at hlength
  omega

/-- Two words that need a third one behind them to make a statement. -/
structure Begins (front : String) (u v : List Char) : Prop where
  text : front.toList = u ++ ' ' :: (v ++ [' '])
  first : u ≠ [] ∧ ∀ c ∈ u, isBlank c = false
  second : v ≠ [] ∧ ∀ c ∈ v, isBlank c = false
  noSemicolon : ';' ∉ v
  incomplete : ofWords? [u, v] = none

section

variable {front : String} {u v : List Char}

theorem Begins.core_append (h : Begins front u v) (hs : ∀ c ∈ s.toList, isBlank c = false) :
    core (front ++ s).toList = if lastWord s = [] then u ++ ' ' :: v else front.toList ++ lastWord s := by
  obtain ⟨n, hsplit⟩ := exists_eq_lastWord_append s
  rw [String.toList_append, hsplit]
  split
  · rename_i hcut
    -- nothing but semicolons stands behind the two words
    have hends : Ends (u ++ [' '] ++ v) := ends_append _ h.second fun hlast =>
      h.noSemicolon (List.mem_of_getLast? hlast)
    have hfollowed := core_followed hends (List.append_assoc u .. ▸ IsWord.noBlank_head? h.first _)
      (List.forall_mem_singleton.2 (by decide : isBlank ' ' = true)) n
    simpa [hcut, h.text] using hfollowed
  · rename_i hcut
    have hends : Ends (front.toList ++ lastWord s) :=
      ends_append _ ⟨hcut, noBlank_lastWord hs⟩ fun hlast => by simpa using Cut.getLast?_trimEnd s.toList _ hlast
    have hhead : ∀ c ∈ (front.toList ++ lastWord s).head?, isBlank c = false := by
      rw [h.text, List.append_assoc]
      exact IsWord.noBlank_head? h.first _
    simpa using core_followed hends hhead (List.forall_mem_nil _) n

/-- The statement is read from its last word. -/
theorem Begins.parse_eq_ok_iff (h : Begins front u v) (read : List Char → Except Fault Statement)
    (hread : ∀ w, ofWords? [u, v, w] = some (read w)) (hs : ∀ c ∈ s.toList, isBlank c = false) {st : Statement} :
    parse (front ++ s) = .ok st ↔ lastWord s ≠ [] ∧ read (lastWord s) = .ok st := by
  unfold parse
  dsimp only
  rw [h.core_append hs]
  split
  · rename_i hcut
    rw [words_append _ h.first.1 h.first.2 (by decide), words_of_noBlank h.second.1 h.second.2, h.incomplete]
    exact iff_of_false nofun fun hne => hne.1 hcut
  · rename_i hcut
    have htext : front.toList ++ lastWord s = u ++ ' ' :: (v ++ ' ' :: lastWord s) := by simp [h.text]
    rw [htext, words_three h.first.1 h.second.1 hcut h.first.2 h.second.2 (noBlank_lastWord hs), hread,
      Option.getD_some]
    exact (and_iff_right hcut).symm

/-- A statement on one path is the one on the path that the last word spells. -/
theorem Begins.parse_path_eq_ok_iff (h : Begins front u v) (make : Path → Statement)
    (hread : ∀ w, ofWords? [u, v, w] = some (make <$> path w)) (hs : ∀ c ∈ s.toList, isBlank c = false)
    {st : Statement} :
    parse (front ++ s) = .ok st ↔ ∃ p, path (lastWord s) = .ok p ∧ make p = st := by
  rw [h.parse_eq_ok_iff (make <$> path ·) hread hs, map_eq_ok_iff]
  refine and_iff_right_of_imp ?_
  rintro ⟨p, hp, -⟩ hnil
  rw [hnil] at hp
  cases hp

end

theorem begins_createDatabase : Begins "create database " "create".toList "database".toList :=
  ⟨rfl, ⟨by decide, noBlank_of_all (by decide)⟩, ⟨by decide, noBlank_of_all (by decide)⟩, by decide, rfl⟩

theorem begins_deleteDatabase : Begins "delete database " "delete".toList "database".toList :=
  ⟨rfl, ⟨by decide, noBlank_of_all (by decide)⟩, ⟨by decide, noBlank_of_all (by decide)⟩, by decide, rfl⟩

theorem begins_deleteSeries : Begins "delete timeseries " "delete".toList "timeseries".toList :=
  ⟨rfl, ⟨by decide, noBlank_of_all (by decide)⟩, ⟨by decide, noBlank_of_all (by decide)⟩, by decide, rfl⟩

variable {st : Statement}

theorem parse_createDatabase_eq_ok_iff (hs : ∀ c ∈ s.toList, isBlank c = false) :
    parse ("create database " ++ s) = .ok st ↔ ∃ p, path (lastWord s) = .ok p ∧ .createDatabase p = st :=
  begins_createDatabase.parse_path_eq_ok_iff .createDatabase (fun _ => rfl) hs

theorem parse_deleteSeries_eq_ok_iff (hs : ∀ c ∈ s.toList, isBlank c = false) :
    parse ("delete timeseries " ++ s) = .ok st ↔ ∃ p, path (lastWord s) = .ok p ∧ .deleteSeries p = st :=
  begins_deleteSeries.parse_path_eq_ok_iff .deleteSeries (fun _ => rfl) hs

/-- The deletion of databases takes the last word for a list. -/
theorem parse_deleteDatabase_eq_ok_iff (hs : ∀ c ∈ s.toList, isBlank c = false) :
    parse ("delete database " ++ s) = .ok st ↔
      lastWord s ≠ [] ∧ ∃ ps, paths [lastWord s] = .ok ps ∧ .deleteDatabases ps = st := by
  rw [begins_deleteDatabase.parse_eq_ok_iff (.deleteDatabases <$> paths [·]) (fun _ => rfl) hs, map_eq_ok_iff]

/-! ## The creation of a series -/

/-- The properties of a series of which only the type is declared, and that as floating. -/
def floatInfo : SeriesInfo := ⟨.float, DataType.float.defaultEncoding, SeriesInfo.defaultCompression⟩

theorem creation_float_eq_ok_iff :
    creation w "datatype=FLOAT".toList = .ok st ↔ ∃ p, path w = .ok p ∧ p.hasStar = false ∧
      .createSeries p floatInfo = st := by
  have hcreation : creation w "datatype=FLOAT".toList =
      path w >>= fun p => if p.hasStar then .error (.wildcardInSeries p.text) else .ok (.createSeries p floatInfo) := by
    unfold creation
    refine congrArg (path w >>= ·) (funext fun p => ?_)
    cases p.hasStar <;> rfl
  rw [hcreation, bind_eq_ok_iff]
  refine exists_congr fun p => and_congr_right fun _ => ?_
  cases p.hasStar <;> simp

/-- The words of the creation of a series at a word. -/
theorem words_createSeries (hne : s.toList ≠ []) (hs : ∀ c ∈ s.toList, isBlank c = false) :
    words (core ("create timeseries " ++ s ++ " with datatype=FLOAT").toList) =
      ["create".toList, "timeseries".toList, s.toList, "with".toList, "datatype=FLOAT".toList] := by
  have hattribute : words "datatype=FLOAT".toList = ["datatype=FLOAT".toList] :=
    words_of_noBlank (by decide) (noBlank_of_all (by decide))
  have hwords : words "datatype=FLOAT".toList ≠ [] := hattribute ▸ List.cons_ne_nil _ _
  have hcreation := words_core_creation ⟨hne, hs⟩ hwords (by decide)
  rw [hattribute, String.append_assoc] at hcreation
  exact hcreation

/-- A series is created at the path that the word between the keywords spells, semicolons behind it included. -/
theorem parse_createSeries_eq_ok_iff (hs : ∀ c ∈ s.toList, isBlank c = false) :
    parse ("create timeseries " ++ s ++ " with datatype=FLOAT") = .ok st ↔
      ∃ p, path s.toList = .ok p ∧ p.hasStar = false ∧ .createSeries p floatInfo = st := by
  rw [← creation_float_eq_ok_iff]
  rcases eq_or_ne s.toList [] with hnil | hne
  · -- without a word between them the keywords make no statement
    obtain rfl : s = "" := String.toList_injective hnil
    have hnone : parse ("create timeseries " ++ "" ++ " with datatype=FLOAT") =
        .error (.unsupported "create timeseries  with datatype=FLOAT") := by decide +kernel
    rw [hnone]
    exact iff_of_false nofun nofun
  · unfold parse
    dsimp only
    rw [words_createSeries hne hs]
    rfl

end Statement

end SeriesCatalog
