/-
The attributes of a new series, read as a list of declarations. A declaration is a key and a value with a
sign between them; keys may be spelled in any case, and two keys name the compression. How the declarations
are spaced does not count, nor do blank pieces between commas. Of each attribute the last declaration is kept,
so the order of declarations of different attributes does not count either.
-/
import SeriesCatalog.Proofs.Statement.Core
import SeriesCatalog.Proofs.Statement.Form
import SeriesCatalog.Proofs.Statement.Made
import SeriesCatalog.Proofs.Text.Letter
import SeriesCatalog.Proofs.Text.Words

namespace SeriesCatalog.Statement

open Text

/-! ## Declarations -/

/-- What may be declared of a series. -/
inductive Attribute
  | dataType
  | encoding
  | compression
  deriving DecidableEq, Repr

/-- The keys of an attribute in small letters. -/
def Attribute.keys : Attribute → List String
  | dataType => ["datatype"]
  | encoding => ["encoding"]
  | compression => ["compression", "compressor"]

/-- One attribute with its value. The value takes up no more than a part of a word. -/
structure Declaration where
  subject : Attribute
  key : String
  value : String
  named : String.ofList (lower key.toList) ∈ subject.keys
  plain : ∀ c ∈ value.toList, isBlank c = false ∧ c ≠ ',' ∧ c ≠ ';'

/-- Of a given value it is checked character by character that it has nowhere to be cut. -/
theorem plain_of_all {value : List Char} (h : value.all (fun c => !isBlank c && c != ',' && c != ';') = true) :
    ∀ c ∈ value, isBlank c = false ∧ c ≠ ',' ∧ c ≠ ';' := by
  simpa [and_assoc] using h

namespace Declaration

/-- The value as it is kept. -/
def kept (d : Declaration) : String := String.ofList (upper d.value.toList)

/-- The piece is the declaration with any blanks around its key and around its value. -/
def IsPiece (d : Declaration) (piece : List Char) : Prop :=
  ∃ g₁ g₂ g₃ g₄ : List Char, (∀ c ∈ g₁ ++ g₂, isBlank c = true) ∧ (∀ c ∈ g₃ ++ g₄, isBlank c = true) ∧
    piece = g₁ ++ (d.key.toList ++ g₂) ++ '=' :: (g₃ ++ (d.value.toList ++ g₄))

end Declaration

/-- The pieces are these declarations in this order; any number of blank pieces stand between them. -/
inductive Pieced : List Declaration → List (List Char) → Prop
  | nil : Pieced [] []
  | blank {piece : List Char} {ds : List Declaration} {ps : List (List Char)} (hpiece : ∀ c ∈ piece, isBlank c = true)
      (h : Pieced ds ps) : Pieced ds (piece :: ps)
  | declaration {d : Declaration} {piece : List Char} {ds : List Declaration} {ps : List (List Char)}
      (hpiece : d.IsPiece piece) (h : Pieced ds ps) : Pieced (d :: ds) (piece :: ps)

/-- The text is a list of these declarations between commas. -/
def Declares (text : String) (ds : List Declaration) : Prop := ∃ ps, Pieced ds ps ∧ text.toList = join ',' ps

/-- What is declared of an attribute in the end. -/
def declared (ds : List Declaration) (a : Attribute) : Option String :=
  ((ds.filter (·.subject = a)).getLast?).map Declaration.kept

/-- The lists differ at most in how the declarations of different attributes follow each other. -/
def SameButOrder (ds ds' : List Declaration) : Prop := ∀ a, ds.filter (·.subject = a) = ds'.filter (·.subject = a)

section

variable {d e : Declaration} {ds ds' : List Declaration} {piece q : List Char} {ps : List (List Char)} {a : Attribute}

theorem declared_cons : declared (d :: ds) a = (declared ds a).or (if a = d.subject then some d.kept else none) := by
  unfold declared
  rw [List.filter_cons]
  by_cases ha : a = d.subject
  · rw [if_pos (by simp [ha]), if_pos ha, List.getLast?_cons]
    cases (ds.filter (·.subject = a)).getLast? <;> rfl
  · rw [if_neg (by simpa using Ne.symm ha), if_neg ha, Option.or_none]

theorem SameButOrder.declared_eq (h : SameButOrder ds ds') : declared ds a = declared ds' a := by
  rw [declared, declared, h a]

/-- Two neighbours of different attributes may change places. -/
theorem sameButOrder_swap (ds ds' : List Declaration) (hne : d.subject ≠ e.subject) :
    SameButOrder (ds ++ d :: e :: ds') (ds ++ e :: d :: ds') := by
  intro a
  by_cases hd : d.subject = a
  · have he : e.subject ≠ a := fun he => hne (hd.trans he.symm)
    simp [hd, he]
  · simp [List.filter_cons, hd]

theorem SameButOrder.ne_nil (h : SameButOrder ds ds') (hne : ds ≠ []) : ds' ≠ [] := by
  rintro rfl
  obtain ⟨d, ds, rfl⟩ := List.exists_cons_of_ne_nil hne
  have hd := h d.subject
  simp at hd

/-! ## One declaration -/

namespace Declaration

theorem isAlpha_of_mem_key {c : Char} (hc : c ∈ d.key.toList) : c.isAlpha = true := by
  have hkeys : ∀ k ∈ d.subject.keys, k.toList.all Char.isAlpha = true := by cases d.subject <;> decide
  have hall := hkeys _ d.named
  rw [String.toList_ofList, List.all_eq_true] at hall
  rw [← Char.isAlpha_toLower_eq_isAlpha]
  exact hall _ (List.mem_map_of_mem hc)

theorem noBlank_key : ∀ c ∈ d.key.toList, isBlank c = false :=
  fun _ hc => not_isBlank_of_isAlpha (isAlpha_of_mem_key hc)

theorem noBlank_value : ∀ c ∈ d.value.toList, isBlank c = false := fun c hc => (d.plain c hc).1

/-- A piece holds no more than the key, the sign, the value and blanks. -/
theorem IsPiece.notMem (h : d.IsPiece piece) {c : Char} (hblank : isBlank c = false) (halpha : c.isAlpha = false)
    (hsign : c ≠ '=') (hvalue : c ∉ d.value.toList) : c ∉ piece := by
  obtain ⟨g₁, g₂, g₃, g₄, hfront, hback, rfl⟩ := h
  have hkey : c ∉ d.key.toList := by
    intro hc
    rw [isAlpha_of_mem_key hc] at halpha
    cases halpha
  have hfront := notMem_of_blank hblank hfront
  have hback := notMem_of_blank hblank hback
  rw [List.mem_append, not_or] at hfront hback
  simp [hfront, hback, hkey, hsign, hvalue]

/-- A declaration is a piece as it stands. -/
theorem isPiece_plain (d : Declaration) : d.IsPiece (d.key.toList ++ '=' :: d.value.toList) :=
  ⟨[], [], [], [], nofun, nofun, by simp⟩

theorem IsPiece.words_ne_nil (h : d.IsPiece piece) : words piece ≠ [] := by
  obtain ⟨g₁, g₂, g₃, g₄, -, -, rfl⟩ := h
  intro hnil
  have hsign := words_eq_nil_iff.1 hnil '=' (by simp)
  cases hsign

/-- Whatever has the words of a piece is cut into the key and the value. -/
theorem IsPiece.exists_cut (h : d.IsPiece piece) (hq : words q = words piece) :
    ∃ before after, cutFirst ['='] q = some (before, after) ∧
      trim before = d.key.toList ∧ trim after = d.value.toList := by
  obtain ⟨g₁, g₂, g₃, g₄, hfront, hback, rfl⟩ := h
  rw [List.forall_mem_append] at hfront hback
  have hblank : isBlank '=' = false := by decide
  have hcut : cutFirst ['='] (g₁ ++ (d.key.toList ++ g₂) ++ '=' :: (g₃ ++ (d.value.toList ++ g₄))) =
      some (g₁ ++ (d.key.toList ++ g₂), g₃ ++ (d.value.toList ++ g₄)) := by
    have hkey : '=' ∉ d.key.toList := fun hc => by cases isAlpha_of_mem_key hc
    rw [cutFirst_singleton_eq_some_iff]
    exact ⟨rfl, by simp [notMem_of_blank hblank hfront.1, notMem_of_blank hblank hfront.2, hkey]⟩
  have hsame := cutFirst_words_congr hblank hq
  rw [hcut, Option.map_some, Option.map_eq_some_iff] at hsame
  obtain ⟨⟨before, after⟩, hcut', hwords⟩ := hsame
  obtain ⟨hbefore, hafter⟩ := Prod.mk.inj hwords
  rw [words_append_of_blank hfront.1, words_append_blanks _ hfront.2] at hbefore
  rw [words_append_of_blank hback.1, words_append_blanks _ hback.2] at hafter
  exact ⟨before, after, hcut', trim_eq_of_words hbefore noBlank_key, trim_eq_of_words hafter noBlank_value⟩

end Declaration

end

/-! ## All declarations -/

/-- What is given of one attribute. -/
def Attributes.of (given : Attributes) : Attribute → Option String
  | .dataType => given.dataType
  | .encoding => given.encoding
  | .compression => given.compression

theorem Attributes.ext_of {given given' : Attributes} (h : ∀ a, given.of a = given'.of a) : given = given' := by
  cases given
  cases given'
  rw [Attributes.mk.injEq]
  exact ⟨h .dataType, h .encoding, h .compression⟩

/-- A declaration is added as what it says, whatever the blanks in it. -/
theorem Attributes.add_of_isPiece (given : Attributes) {d : Declaration} {piece q : List Char} (h : d.IsPiece piece)
    (hq : words q = words piece) :
    ∃ next, given.add q = .ok next ∧
      ∀ a, next.of a = (if a = d.subject then some d.kept else none).or (given.of a) := by
  obtain ⟨before, after, hcut, hbefore, hafter⟩ := h.exists_cut hq
  have hnamed := d.named
  unfold Attributes.add
  rw [hcut]
  dsimp only
  rw [hbefore, hafter]
  cases hsubject : d.subject with
  | dataType =>
    rw [hsubject, Attribute.keys, List.mem_singleton] at hnamed
    rw [hnamed]
    exact ⟨_, rfl, fun a => by cases a <;> rfl⟩
  | encoding =>
    rw [hsubject, Attribute.keys, List.mem_singleton] at hnamed
    rw [hnamed]
    exact ⟨_, rfl, fun a => by cases a <;> rfl⟩
  | compression =>
    rw [hsubject, Attribute.keys, List.mem_cons, List.mem_singleton] at hnamed
    rcases hnamed with hnamed | hnamed <;> rw [hnamed]
    · exact ⟨_, rfl, fun a => by cases a <;> rfl⟩
    · exact ⟨_, rfl, fun a => by cases a <;> rfl⟩

section

variable {ds : List Declaration} {ps : List (List Char)} {text : String}

/-- From pieces of the same words the same is given: what is declared, and what was given of the rest. -/
theorem Pieced.foldlM_add (h : Pieced ds ps) {qs : List (List Char)} (hqs : qs.map words = ps.map words)
    (given : Attributes) :
    ∃ last, ((qs.map trim).filter (· ≠ [])).foldlM Attributes.add given = .ok last ∧
      ∀ a, last.of a = (declared ds a).or (given.of a) := by
  induction h generalizing qs given with
  | nil =>
    obtain rfl : qs = [] := List.map_eq_nil_iff.1 hqs
    exact ⟨given, rfl, fun a => rfl⟩
  | @blank piece ds ps hpiece _ ih =>
    obtain ⟨q, qs, rfl, hq, hqs⟩ := List.map_eq_cons_iff.1 hqs
    have htrim : trim q = [] := trim_eq_of_words (hq.trans (words_eq_nil_of_blank hpiece)) nofun
    rw [List.map_cons, htrim, List.filter_cons_of_neg (by simp)]
    exact ih hqs given
  | @declaration d piece ds ps hpiece _ ih =>
    obtain ⟨q, qs, rfl, hq, hqs⟩ := List.map_eq_cons_iff.1 hqs
    have hne : trim q ≠ [] := by
      intro hnil
      have hwords := words_trim q
      rw [hnil] at hwords
      exact hpiece.words_ne_nil (hq.symm.trans hwords.symm)
    obtain ⟨next, hadd, hnext⟩ := given.add_of_isPiece hpiece ((words_trim q).trans hq)
    obtain ⟨last, hfold, hlast⟩ := ih hqs next
    refine ⟨last, ?_, fun a => ?_⟩
    · rw [List.map_cons, List.filter_cons_of_pos (by simpa using hne), List.foldlM_cons, hadd]
      exact hfold
    · rw [hlast, hnext, declared_cons, Option.or_assoc]

theorem Pieced.notMem (h : Pieced ds ps) {c : Char} (hblank : isBlank c = false) (halpha : c.isAlpha = false)
    (hsign : c ≠ '=') (hvalue : ∀ d ∈ ds, c ∉ d.value.toList) : ∀ piece ∈ ps, c ∉ piece := by
  induction h with
  | nil => exact nofun
  | blank hpiece _ ih => exact List.forall_mem_cons.2 ⟨notMem_of_blank hblank hpiece, ih hvalue⟩
  | declaration hpiece _ ih =>
    rw [List.forall_mem_cons] at hvalue
    exact List.forall_mem_cons.2 ⟨hpiece.notMem hblank halpha hsign hvalue.1, ih hvalue.2⟩

theorem Pieced.exists_words_ne_nil (h : Pieced ds ps) (hne : ds ≠ []) : ∃ piece ∈ ps, words piece ≠ [] := by
  induction h with
  | nil => exact absurd rfl hne
  | blank _ _ ih =>
    obtain ⟨piece, hmem, hwords⟩ := ih hne
    exact ⟨piece, List.mem_cons_of_mem _ hmem, hwords⟩
  | declaration hpiece _ _ => exact ⟨_, List.mem_cons_self .., hpiece.words_ne_nil⟩

/-- The text of some declarations, with a semicolon nowhere, cut into its pieces at its commas. -/
theorem Declares.exists_pieced (h : Declares text ds) (hne : ds ≠ []) :
    Pieced ds (pieces ',' text.toList) ∧ words text.toList ≠ [] ∧ ';' ∉ text.toList := by
  obtain ⟨ps, hps, htext⟩ := h
  have hcomma : ∀ piece ∈ ps, ',' ∉ piece :=
    hps.notMem (by decide) (by decide) (by decide) fun d _ hc => (d.plain _ hc).2.1 rfl
  have hsemicolon : ∀ piece ∈ ps, ';' ∉ piece :=
    hps.notMem (by decide) (by decide) (by decide) fun d _ hc => (d.plain _ hc).2.2 rfl
  obtain ⟨piece, hmem, hwords⟩ := hps.exists_words_ne_nil hne
  have hpieces : pieces ',' text.toList = ps := htext ▸ pieces_join (List.ne_nil_of_mem hmem) hcomma
  refine ⟨hpieces.symm ▸ hps, fun hnil => hwords ?_, fun hc => ?_⟩
  · rw [← hpieces] at hmem
    exact words_eq_nil_of_blank fun c hc => words_eq_nil_iff.1 hnil c (Cut.mem_of_mem_piecesBy hmem hc)
  · rcases eq_or_mem_of_mem_join (htext ▸ hc) with hsep | ⟨piece, hmem, hc⟩
    · cases hsep
    · exact hsemicolon piece hmem hc

/-! ## The creation of a series -/

/-- The attributes of a creation are given by its declarations, however they are spaced. -/
theorem Declares.creation_eq {w : List Char} {p : Path} (h : Declares text ds) (hne : ds ≠ []) (hp : path w = .ok p)
    (hstar : p.hasStar = false) :
    ∃ given : Attributes, (∀ a, given.of a = declared ds a) ∧
      creation w (join ' ' (words text.toList)) = .createSeries p <$> given.info := by
  obtain ⟨hpieces, -, -⟩ := h.exists_pieced hne
  have hspaced : words (join ' ' (words text.toList)) = words text.toList :=
    words_join fun v hv => isWord_of_mem_words hv
  have hcomma : isBlank ',' = false := by decide
  obtain ⟨given, hfold, hgiven⟩ := hpieces.foldlM_add (pieces_words_congr hcomma hspaced) {}
  refine ⟨given, fun a => ?_, ?_⟩
  · rw [hgiven a]
    cases a <;> exact Option.or_none
  · rw [creation, hp, listed]
    dsimp only [bind, Except.bind]
    rw [if_neg (by simp [hstar]), hfold]
    dsimp only
    cases given.info <;> rfl

/-- The statement is read from what the declarations give. -/
theorem Declares.parse_eq {w : String} {p : Path} (h : Declares text ds) (hne : ds ≠ []) (hw : IsWord w.toList)
    (hp : path w.toList = .ok p) (hstar : '*' ∉ w.toList) :
    ∃ given : Attributes, (∀ a, given.of a = declared ds a) ∧
      parse ("create timeseries " ++ w ++ " with " ++ text) = .createSeries p <$> given.info := by
  obtain ⟨-, hwords, hsemicolon⟩ := h.exists_pieced hne
  have hplain : p.hasStar = false := by
    simpa [Path.hasStar] using fun hc => hstar ((rooted_of_path hp).2 _ hc)
  obtain ⟨given, hgiven, hcreation⟩ := h.creation_eq hne hp hplain
  have hopening : Spells ["create".toList, "timeseries".toList] creationOpening := rfl
  have hread := ofWords?_of_reads hopening (.creation w.toList (v := "with".toList) rfl hwords)
  refine ⟨given, hgiven, ?_⟩
  rw [parse, words_core_creation hw hwords hsemicolon, hread, Option.getD_some, hcreation]

/-- However the attributes of a new series are spaced, keyed and repeated, the last declaration of each counts. The
series is created exactly if its type is declared as one of the known types in the end; what is not declared is
the usual for the type. Declarations of different attributes may follow each other in any order. -/
theorem parse_declares {w : String} {p : Path} (hw : IsWord w.toList) (hp : path w.toList = .ok p)
    (hstar : '*' ∉ w.toList)
    (hne : ds ≠ []) (h : Declares text ds) :
    (∀ t : DataType, declared ds .dataType = some t.name →
      parse ("create timeseries " ++ w ++ " with " ++ text) =
        .ok (.createSeries p ⟨t, (declared ds .encoding).getD t.defaultEncoding,
          (declared ds .compression).getD "LZ4"⟩)) ∧
    (declared ds .dataType = none → parse ("create timeseries " ++ w ++ " with " ++ text) = .error .noDataType) ∧
    (∀ name, declared ds .dataType = some name → (∀ t : DataType, t.name ≠ name) →
      parse ("create timeseries " ++ w ++ " with " ++ text) = .error (.unsupportedDataType name)) ∧
    ∀ (ds' : List Declaration) (text' : String), SameButOrder ds ds' → Declares text' ds' →
      parse ("create timeseries " ++ w ++ " with " ++ text') =
        parse ("create timeseries " ++ w ++ " with " ++ text) := by
  obtain ⟨given, hgiven, hparse⟩ := h.parse_eq hne hw hp hstar
  have hattributes : given = ⟨declared ds .dataType, declared ds .encoding, declared ds .compression⟩ :=
    Attributes.ext_of fun a => by cases a <;> exact hgiven _
  refine ⟨fun t ht => ?_, fun hnone => ?_, fun name hname hunknown => ?_, fun ds' text' hsame h' => ?_⟩
  · rw [hparse, hattributes, Attributes.info, ht]
    dsimp only
    rw [DataType.ofName?_name]
    rfl
  · rw [hparse, hattributes, Attributes.info, hnone]
    rfl
  · have hnone : DataType.ofName? name = none := by
      rw [Option.eq_none_iff_forall_ne_some]
      exact fun t ht => hunknown t (DataType.name_of_ofName? ht)
    rw [hparse, hattributes, Attributes.info, hname]
    dsimp only
    rw [hnone]
    rfl
  · obtain ⟨given', hgiven', hparse'⟩ := h'.parse_eq (hsame.ne_nil hne) hw hp hstar
    have hsameGiven : given' = given :=
      Attributes.ext_of fun a => by rw [hgiven', hgiven, hsame.declared_eq]
    rw [hparse', hparse, hsameGiven]

end

/-- Two types and two compressions, unevenly spaced, with a sign in a value and an empty value; and the same
declarations, two of them in the other order. -/
theorem parse_declares_spaced :
    parse ("create timeseries root.sg.d.s, with " ++
        "\tDataType = int64,, COMPRESSOR\u3000=snappy,encoding=a=b ,datatype\n= Text,compression= ") =
        .ok (.createSeries ⟨"root.sg.d.s"⟩ ⟨.text, "A=B", ""⟩) ∧
      parse ("create timeseries root.sg.d.s, with " ++
        "DataType=int64,COMPRESSOR=snappy,datatype=Text,encoding=a=b,compression=") =
        .ok (.createSeries ⟨"root.sg.d.s"⟩ ⟨.text, "A=B", ""⟩) := by
  let int64 : Declaration := ⟨.dataType, "DataType", "int64", by decide, plain_of_all (by decide)⟩
  let snappy : Declaration := ⟨.compression, "COMPRESSOR", "snappy", by decide, plain_of_all (by decide)⟩
  let signed : Declaration := ⟨.encoding, "encoding", "a=b", by decide, plain_of_all (by decide)⟩
  let text : Declaration := ⟨.dataType, "datatype", "Text", by decide, plain_of_all (by decide)⟩
  let empty : Declaration := ⟨.compression, "compression", "", by decide, plain_of_all (by decide)⟩
  have hint64 : int64.IsPiece "\tDataType = int64".toList :=
    ⟨['\t'], [' '], [' '], [], List.all_eq_true.1 (by decide), List.all_eq_true.1 (by decide), by decide⟩
  have hsnappy : snappy.IsPiece " COMPRESSOR\u3000=snappy".toList :=
    ⟨[' '], ['\u3000'], [], [], List.all_eq_true.1 (by decide), List.all_eq_true.1 (by decide), by decide⟩
  have hsigned : signed.IsPiece "encoding=a=b ".toList :=
    ⟨[], [], [], [' '], List.all_eq_true.1 (by decide), List.all_eq_true.1 (by decide), by decide⟩
  have htext : text.IsPiece "datatype\n= Text".toList :=
    ⟨[], ['\n'], [' '], [], List.all_eq_true.1 (by decide), List.all_eq_true.1 (by decide), by decide⟩
  have hempty : empty.IsPiece "compression= ".toList :=
    ⟨[], [], [], [' '], List.all_eq_true.1 (by decide), List.all_eq_true.1 (by decide), by decide⟩
  have hspaced : Declares "\tDataType = int64,, COMPRESSOR\u3000=snappy,encoding=a=b ,datatype\n= Text,compression= "
      ([int64, snappy] ++ signed :: text :: [empty]) :=
    ⟨_, .declaration hint64 <| .blank (List.forall_mem_nil _) <| .declaration hsnappy <| .declaration hsigned <|
      .declaration htext <| .declaration hempty .nil, by decide⟩
  have hplain : Declares "DataType=int64,COMPRESSOR=snappy,datatype=Text,encoding=a=b,compression="
      ([int64, snappy] ++ text :: signed :: [empty]) :=
    ⟨_, .declaration int64.isPiece_plain <| .declaration snappy.isPiece_plain <| .declaration text.isPiece_plain <|
      .declaration signed.isPiece_plain <| .declaration empty.isPiece_plain .nil, by decide⟩
  have hpath : path "root.sg.d.s,".toList = .ok ⟨"root.sg.d.s"⟩ := by decide +kernel
  have hword : IsWord "root.sg.d.s,".toList := ⟨by decide, noBlank_of_all (by decide)⟩
  obtain ⟨hcreated, -, -, hsame⟩ := parse_declares hword hpath (by decide) (by simp) hspaced
  have hencoding : declared ([int64, snappy] ++ signed :: text :: [empty]) .encoding = some "A=B" := by decide +kernel
  have hcompression : declared ([int64, snappy] ++ signed :: text :: [empty]) .compression = some "" := by
    decide +kernel
  have hparse := hcreated .text (by decide +kernel)
  rw [hencoding, hcompression] at hparse
  have hother := hsame _ _ (sameButOrder_swap [int64, snappy] [empty] (by decide)) hplain
  simp only [String.reduceAppend] at hparse hother ⊢
  exact ⟨hparse, hother.trans hparse⟩

end SeriesCatalog.Statement
