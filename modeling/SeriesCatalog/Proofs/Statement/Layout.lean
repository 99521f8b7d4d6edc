/-
What of a text its statement does not depend on. Blanks around the text and semicolons behind it are
dropped, between two words one blank is as good as another or as many, and the letters of a keyword or of
an attribute may be capital or small. The text of an accepted statement is its words laid out; whoever
lays out the same words in another way, or recases those that are not paths, writes the same statement.
-/
import SeriesCatalog.Proofs.Result
import SeriesCatalog.Proofs.Statement.Core
import SeriesCatalog.Proofs.Statement.Form
import SeriesCatalog.Proofs.Text.Letter

namespace SeriesCatalog.Statement

open Text

/-! ## Words laid out -/

/-- A text that can stand between two words. -/
def IsGap (gap : List Char) : Prop := gap ≠ [] ∧ ∀ c ∈ gap, isBlank c = true

/-- The text is made of these words in this order, with some gap between any two of them. -/
inductive LaidOut : List (List Char) → List Char → Prop
  | single {w : List Char} (hw : IsWord w) : LaidOut [w] w
  | cons {w gap rest : List Char} {ws : List (List Char)} (hw : IsWord w) (hgap : IsGap gap) (h : LaidOut ws rest) :
      LaidOut (w :: ws) (w ++ gap ++ rest)

section

variable {ws : List (List Char)} {cs : List Char}

theorem LaidOut.ne_nil (h : LaidOut ws cs) : cs ≠ [] := by
  cases h with
  | single hw => exact hw.1
  | cons hw => simp [hw.1]

theorem LaidOut.words_eq (h : LaidOut ws cs) : words cs = ws := by
  induction h with
  | single hw => exact words_of_noBlank hw.1 hw.2
  | @cons w gap rest ws hw hgap _ ih =>
    obtain ⟨c, gap, rfl⟩ := List.exists_cons_of_ne_nil hgap.1
    obtain ⟨hc, hgap⟩ := List.forall_mem_cons.1 hgap.2
    rw [List.append_assoc, List.cons_append, words_append _ hw.1 hw.2 hc, words_append_of_blank hgap, ih]

theorem LaidOut.noBlank_head? (h : LaidOut ws cs) : ∀ c ∈ cs.head?, isBlank c = false := by
  cases h with
  | single hw => exact fun c hc => hw.2 c (List.mem_of_mem_head? hc)
  | cons hw =>
    rw [List.append_assoc]
    exact hw.noBlank_head? _

/-- The text ends as its last word does. -/
theorem LaidOut.getLast?_eq (h : LaidOut ws cs) : cs.getLast? = ws.flatten.getLast? := by
  induction h with
  | single hw => simp
  | @cons w gap rest ws hw hgap hrest ih =>
    rw [List.flatten_cons, List.getLast?_append, List.getLast?_append, List.getLast?_append, ← ih,
      List.getLast?_eq_some_getLast hrest.ne_nil, Option.some_or, Option.some_or]

theorem LaidOut.noBlank_getLast? (h : LaidOut ws cs) : ∀ c ∈ cs.getLast?, isBlank c = false := by
  intro c hc
  rw [h.getLast?_eq, ← h.words_eq] at hc
  obtain ⟨w, hw, hcw⟩ := List.mem_flatten.1 (List.mem_of_getLast? hc)
  exact words_noBlank hw c hcw

/-- A text that does not end in a blank is its words laid out, once the blanks before it are gone. -/
theorem exists_laidOut (hne : cs ≠ []) (hlast : ∀ c ∈ cs.getLast?, isBlank c = false) :
    ∃ gap ws rest, cs = gap ++ rest ∧ (∀ c ∈ gap, isBlank c = true) ∧ LaidOut ws rest := by
  induction cs with
  | nil => exact absurd rfl hne
  | cons c cs ih =>
    rcases eq_or_ne cs [] with rfl | hcs
    · exact ⟨[], [[c]], [c], rfl, nofun, .single (isWord_cons (hlast c rfl) (List.forall_mem_nil _))⟩
    · rw [List.getLast?_cons_of_ne_nil hcs] at hlast
      obtain ⟨gap, ws, rest, rfl, hgap, hrest⟩ := ih hcs hlast
      cases hc : isBlank c with
      | true => exact ⟨c :: gap, ws, rest, rfl, List.forall_mem_cons.2 ⟨hc, hgap⟩, hrest⟩
      | false =>
        refine ⟨[], ?_⟩
        rcases eq_or_ne gap [] with rfl | hgapne
        -- the character begins the first word of the rest, or it is a word of its own
        · cases hrest with
          | single hw => exact ⟨_, _, rfl, nofun, .single (isWord_cons hc hw.2)⟩
          | cons hw hgap' hrest => exact ⟨_, _, rfl, nofun, .cons (isWord_cons hc hw.2) hgap' hrest⟩
        · have hword : IsWord [c] := isWord_cons hc (List.forall_mem_nil _)
          exact ⟨_, _, rfl, nofun, .cons hword ⟨hgapne, hgap⟩ hrest⟩

/-- A text without blanks at its ends is its words laid out. -/
theorem laidOut_words (hne : cs ≠ []) (hhead : ∀ c ∈ cs.head?, isBlank c = false)
    (hlast : ∀ c ∈ cs.getLast?, isBlank c = false) : LaidOut (words cs) cs := by
  obtain ⟨gap, ws, rest, rfl, hgap, hrest⟩ := exists_laidOut hne hlast
  have hnil : gap = [] := by
    rcases eq_or_ne gap [] with hnil | hgapne
    · exact hnil
    · obtain ⟨c, gap, rfl⟩ := List.exists_cons_of_ne_nil hgapne
      have hc : isBlank c = false := hhead c rfl
      rw [hgap c (List.mem_cons_self ..)] at hc
      cases hc
  rw [hnil, List.nil_append, hrest.words_eq]
  exact hrest

end

/-! ## Letter case -/

/-- One attribute is added alike in small letters and in any. -/
theorem Attributes.add_lower (given : Attributes) {pair : List Char} {a : Attributes} :
    given.add (lower pair) = .ok a ↔ given.add pair = .ok a := by
  unfold Attributes.add
  rw [cutFirst_lower (by decide)]
  cases cutFirst ['='] pair with
  | none => exact iff_of_false nofun nofun
  | some cut => simp only [Option.map_some, Prod.map, trim_lower, upper_lower, lower_lower]

theorem foldlM_add_lower {parts : List (List Char)} {given a : Attributes} :
    (parts.map lower).foldlM Attributes.add given = .ok a ↔ parts.foldlM Attributes.add given = .ok a := by
  induction parts generalizing given with
  | nil => rfl
  | cons part parts ih =>
    rw [List.map_cons, List.foldlM_cons, List.foldlM_cons, bind_eq_ok_iff, bind_eq_ok_iff]
    exact exists_congr fun next => and_congr (given.add_lower) ih

theorem listed_lower {cs : List Char} : listed (lower cs) = (listed cs).map lower := by
  have htrim : trim ∘ lower = lower ∘ trim := funext fun _ => trim_lower
  have hkept : ∀ part ∈ (pieces ',' cs).map trim, (decide (lower part ≠ [])) = decide (part ≠ []) := by
    intro part _
    rw [decide_eq_decide, Ne, lower_eq_nil_iff]
  rw [listed, listed, pieces_lower (by decide), List.map_map, htrim, ← List.map_map, List.filter_map,
    ← List.filter_congr hkept]
  rfl

/-- The letters of the attributes of a series may be capital or small. -/
theorem creation_lower {w attributes : List Char} {st : Statement} :
    creation w (lower attributes) = .ok st ↔ creation w attributes = .ok st := by
  unfold creation
  rw [bind_eq_ok_iff, bind_eq_ok_iff]
  refine exists_congr fun p => and_congr_right fun _ => ?_
  split
  · rfl
  · rw [bind_eq_ok_iff, bind_eq_ok_iff, listed_lower]
    exact exists_congr fun given => and_congr_left fun _ => foldlM_add_lower

/-- The words differ at most in the case of their letters. -/
def SameWords (ws vs : List (List Char)) : Prop := ws.map lower = vs.map lower

instance (ws vs : List (List Char)) : Decidable (SameWords ws vs) := inferInstanceAs (Decidable (_ = _))

/-- Of the words of a statement those may be spelled in another case that are no paths: the keywords of its
opening and, behind the path of a new series, its attributes with the keyword before them. -/
inductive Recased : List (List Char) → List (List Char) → Prop
  | opening {ks : List Keyword} {front front' : List (List Char)} (hks : ks ∈ openings) (hfront : Spells front ks)
      (h : SameWords front front') (rest : List (List Char)) : Recased (front ++ rest) (front' ++ rest)
  | creation {front front' rest rest' : List (List Char)} (hfront : Spells front creationOpening)
      (h : SameWords front front') (w : List Char) (hrest : SameWords rest rest') :
      Recased (front ++ w :: rest) (front' ++ w :: rest')

section

variable {ws vs : List (List Char)}

theorem SameWords.append {ws' vs' : List (List Char)} (h : SameWords ws vs) (h' : SameWords ws' vs') :
    SameWords (ws ++ ws') (vs ++ vs') := by
  rw [SameWords, List.map_append, List.map_append, h, h']

theorem SameWords.flatten (h : SameWords ws vs) : lower ws.flatten = lower vs.flatten := by
  rw [lower, lower, List.map_flatten, List.map_flatten]
  exact congrArg List.flatten h

theorem SameWords.exists_cons {w : List Char} (h : SameWords (w :: ws) vs) :
    ∃ v vs', vs = v :: vs' ∧ lower w = lower v ∧ SameWords ws vs' := by
  obtain ⟨v, vs', rfl, hv, hvs⟩ := List.map_eq_cons_iff.1 h.symm
  exact ⟨v, vs', rfl, hv.symm, hvs.symm⟩

theorem Spells.recased {ks : List Keyword} (h : Spells ws ks) (hsame : SameWords ws vs) : Spells vs ks := by
  have hlower : ∀ us : List (List Char), us.map Keyword.ofWord? = (us.map lower).map Keyword.ofWord? := by
    intro us
    rw [List.map_map]
    exact List.map_congr_left fun u _ => (Keyword.ofWord?_lower u).symm
  rw [Spells, hlower, ← hsame, ← hlower, h]

/-- The attributes of a new series and the keyword before them are read the same when they are recased. -/
theorem Reads.recased {w : List Char} {st : Statement} (h : Reads creationOpening (w :: ws) (.ok st))
    (hsame : SameWords ws vs) :
    Reads creationOpening (w :: vs) (.ok st) := by
  obtain ⟨u, attributes, rfl, hu, hne, hst⟩ := h.exists_of_creationOpening
  obtain ⟨v, attributes', rfl, hlower, hattributes⟩ := hsame.exists_cons
  have hv : Keyword.ofWord? v = some .having := by rw [← Keyword.ofWord?_lower, ← hlower, Keyword.ofWord?_lower, hu]
  have hne' : attributes' ≠ [] := by
    rintro rfl
    exact hne (List.map_eq_nil_iff.1 hattributes)
  have hst' : Statement.creation w (join ' ' attributes') = .ok st := by
    rw [← creation_lower, lower_join (by decide), ← hattributes, ← lower_join (by decide), creation_lower, hst]
  exact hst' ▸ .creation w hv hne'

theorem Recased.sameWords (h : Recased ws vs) : SameWords ws vs := by
  cases h with
  | opening _ _ h => exact h.append rfl
  | creation _ h w hrest =>
    have hword : SameWords [w] [w] := rfl
    exact h.append (hword.append hrest)

/-- The words of a statement begin with one of the openings. -/
theorem recased_self {st : Statement} (h : ofWords? ws = some (.ok st)) : Recased ws ws := by
  obtain ⟨ks, front, tail, rfl, hfront, hreads⟩ := exists_reads_of_ofWords? h
  exact .opening hreads.mem_openings hfront rfl tail

/-- A statement that is recased is read the same. -/
theorem ofWords?_of_recased {st : Statement} (h : ofWords? ws = some (.ok st)) (hvs : Recased ws vs) :
    ofWords? vs = some (.ok st) := by
  obtain ⟨ks, front, tail, hws, hfront, hreads⟩ := exists_reads_of_ofWords? h
  cases hvs with
  | opening hks hspells hsame rest =>
    obtain ⟨rfl, rfl, rfl⟩ := hfront.unique hspells hreads.mem_openings hks hws.symm
    exact ofWords?_of_reads (hspells.recased hsame) hreads
  | creation hspells hsame w hrest =>
    obtain ⟨rfl, rfl, rfl⟩ := hfront.unique hspells hreads.mem_openings (List.mem_cons_self ..) hws.symm
    exact ofWords?_of_reads (hspells.recased hsame) (hreads.recased hrest)

end

/-! ## Statements -/

/-- Words that differ in case only end alike, if not in a letter. -/
theorem LaidOut.ends {ws vs : List (List Char)} {cs ds : List Char} (h : LaidOut ws cs) (hcs : Ends cs)
    (hsame : SameWords ws vs)
    (h' : LaidOut vs ds) : Ends ds := by
  intro d hd
  refine ⟨h'.noBlank_getLast? d hd, ?_⟩
  rintro rfl
  have hlower : cs.getLast?.map Char.toLower = ds.getLast?.map Char.toLower := by
    rw [h.getLast?_eq, h'.getLast?_eq, ← List.getLast?_map, ← List.getLast?_map]
    exact congrArg List.getLast? hsame.flatten
  rw [hd, Option.map_some] at hlower
  obtain ⟨c, hc, hcd⟩ := Option.map_eq_some_iff.1 hlower
  exact (hcs c hc).2 ((toLower_eq_iff (by decide)).1 hcd)

/-- Nothing but blanks may stand before a statement, nothing but blanks, semicolons and blanks behind it, and
these do not count, whether the text is a statement or not. A text without them that is a statement is its words
laid out, and they may be laid out with other gaps and recased. -/
theorem parse_layout (s : String) (hs : Ends s.toList) :
    (∀ (before after behind : String) (n : ℕ), (∀ c ∈ before.toList, isBlank c = true) →
      (∀ c ∈ after.toList, isBlank c = true) → (∀ c ∈ behind.toList, isBlank c = true) →
      parse (before ++ s ++ after ++ String.ofList (List.replicate n ';') ++ behind) = parse s) ∧
    ∀ st, (∀ c ∈ s.toList.head?, isBlank c = false) → parse s = .ok st →
      (LaidOut (words s.toList) s.toList ∧ Recased (words s.toList) (words s.toList)) ∧
        ∀ (vs : List (List Char)) (t : String), Recased (words s.toList) vs → LaidOut vs t.toList →
          parse t = .ok st := by
  constructor
  · intro before after behind n hbefore hafter hbehind
    have hcore : core (before ++ s ++ after ++ String.ofList (List.replicate n ';') ++ behind).toList =
        core s.toList := by
      rw [core_of_ends hs, ← core_framed hbefore hs hafter hbehind n]
      simp
    rw [parse, hcore, ← parse]
  · intro st hhead hst
    rw [parse_eq_ok_iff, core_of_ends_of_head? hs hhead] at hst
    have hne : s.toList ≠ [] := by
      intro hnil
      rw [hnil] at hst
      cases hst
    have hlaid := laidOut_words hne hhead fun c hc => (hs c hc).1
    refine ⟨⟨hlaid, recased_self hst⟩, fun vs t hvs ht => ?_⟩
    rw [parse_eq_ok_iff, core_of_ends_of_head? (hlaid.ends hs hvs.sameWords ht) ht.noBlank_head?, ht.words_eq]
    exact ofWords?_of_recased hst hvs

/-- A creation between blanks and before semicolons, and the same creation laid out widely in capitals. -/
theorem parse_layout_creation :
    Ends "create timeseries root.sg.d.s with datatype=int64".toList ∧
      parse "\n create timeseries root.sg.d.s with datatype=int64 ;; " =
        parse "create timeseries root.sg.d.s with datatype=int64" ∧
      parse "CREATE  Timeseries\troot.sg.d.s\u2003wITH DataType=INT64" =
        .ok (.createSeries ⟨"root.sg.d.s"⟩ ⟨.int64, "TS_2DIFF", "LZ4"⟩) := by
  have hends : Ends "create timeseries root.sg.d.s with datatype=int64".toList := by
    intro c hc
    cases hc
    decide
  obtain ⟨hframed, hlaid⟩ := parse_layout "create timeseries root.sg.d.s with datatype=int64" hends
  refine ⟨hends, hframed "\n " " " " " 2 ?_ ?_ ?_, ?_⟩
  · exact List.all_eq_true.1 (by decide)
  · exact List.all_eq_true.1 (by decide)
  · exact List.all_eq_true.1 (by decide)
  · have hwords : words "create timeseries root.sg.d.s with datatype=int64".toList =
      ["create".toList, "timeseries".toList] ++
        "root.sg.d.s".toList :: ["with".toList, "datatype=int64".toList] := by decide +kernel
    have hwords' : words "CREATE  Timeseries\troot.sg.d.s\u2003wITH DataType=INT64".toList =
        ["CREATE".toList, "Timeseries".toList] ++ "root.sg.d.s".toList :: ["wITH".toList, "DataType=INT64".toList] := by
      decide +kernel
    have hparse : parse "create timeseries root.sg.d.s with datatype=int64" =
        .ok (.createSeries ⟨"root.sg.d.s"⟩ ⟨.int64, "TS_2DIFF", "LZ4"⟩) := by decide +kernel
    have hrecased : Recased (words "create timeseries root.sg.d.s with datatype=int64".toList)
        (words "CREATE  Timeseries\troot.sg.d.s\u2003wITH DataType=INT64".toList) := by
      have hopening : Spells ["create".toList, "timeseries".toList] creationOpening := rfl
      have hfront : SameWords ["create".toList, "timeseries".toList] ["CREATE".toList, "Timeseries".toList] := by
        decide +kernel
      have hrest : SameWords ["with".toList, "datatype=int64".toList] ["wITH".toList, "DataType=INT64".toList] := by
        decide +kernel
      rw [hwords, hwords']
      exact .creation hopening hfront _ hrest
    refine (hlaid _ ?_ hparse).2 _ _ hrecased (laidOut_words (by decide) ?_ ?_)
    all_goals
      intro c hc
      cases hc
      decide

end SeriesCatalog.Statement
