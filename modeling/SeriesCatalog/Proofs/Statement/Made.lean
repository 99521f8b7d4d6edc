/-
What a statement is made from. A statement that reads takes each of its paths from words of its
text; hence a path that is created begins at `root`, has no empty node and no blank, and for a
series no star. Nothing else about the text of a statement matters to the tree.
-/
import SeriesCatalog.Proofs.Statement.Form
import SeriesCatalog.Proofs.Result
import SeriesCatalog.Proofs.Path.Order

namespace SeriesCatalog

/-- A path as statements spell it: it begins at `root` and no node is empty. -/
structure Path.Rooted (p : Path) : Prop where
  root : p.nodes.head? = some "root"
  noEmptyNode : "" ∉ p.nodes

/-- A path as the tree stores it: it is spelled by one word and has no star. -/
structure Path.Storable (p : Path) : Prop extends Path.Rooted p where
  noBlank : ∀ c ∈ p.text.toList, Text.isBlank c = false
  noStar : '*' ∉ p.text.toList

namespace Statement

open Text

/-! ## Reading one path -/

/-- A path that was read is its word without the blanks around it and the commas at its end. -/
theorem text_of_path {w : List Char} {p : Path} (h : path w = .ok p) :
    p.text.toList = Cut.trimEnd (· == ',') (trim w) ∧ p.Rooted := by
  unfold path at h
  dsimp only at h
  split at h
  · cases h
  · rename_i hroot
    split at h
    · cases h
    · rename_i hempty
      cases h
      exact ⟨String.toList_ofList, by simpa using hroot, by simpa using hempty⟩

/-- A path that was read is rooted and consists of characters of its word. -/
theorem rooted_of_path {w : List Char} {p : Path} (h : path w = .ok p) :
    p.Rooted ∧ ∀ c ∈ p.text.toList, c ∈ w := by
  obtain ⟨htext, hroot⟩ := text_of_path h
  exact ⟨hroot, fun c hc => Cut.mem_of_mem_trimBy (Cut.mem_of_mem_trimEnd (htext ▸ hc))⟩

/-! ## Reading a statement -/

/-- A statement whose paths were read from these words. -/
inductive MadeFrom (ws : List (List Char)) : Statement → Prop
  | createDatabase {w : List Char} {p : Path} : w ∈ ws → path w = .ok p → MadeFrom ws (.createDatabase p)
  | deleteDatabases {vs : List (List Char)} {ps : List Path} :
    vs ⊆ ws → paths vs = .ok ps → MadeFrom ws (.deleteDatabases ps)
  | createSeries {w : List Char} {p : Path} (info : SeriesInfo) :
    w ∈ ws → path w = .ok p → p.hasStar = false → MadeFrom ws (.createSeries p info)
  | deleteSeries {w : List Char} {p : Path} : w ∈ ws → path w = .ok p → MadeFrom ws (.deleteSeries p)
  | showDatabases {o : Option Path} : (∀ p ∈ o, ∃ w ∈ ws, path w = .ok p) → MadeFrom ws (.showDatabases o)
  | showDevices {o : Option Path} : (∀ p ∈ o, ∃ w ∈ ws, path w = .ok p) → MadeFrom ws (.showDevices o)
  | showSeries {o : Option Path} : (∀ p ∈ o, ∃ w ∈ ws, path w = .ok p) → MadeFrom ws (.showSeries o)

theorem exists_of_creation {w attributes : List Char} {st : Statement} (h : creation w attributes = .ok st) :
    ∃ p info, path w = .ok p ∧ p.hasStar = false ∧ st = .createSeries p info := by
  unfold creation at h
  obtain ⟨p, hp, h⟩ := bind_eq_ok_iff.1 h
  split at h
  · cases h
  · rename_i hstar
    obtain ⟨given, -, h⟩ := bind_eq_ok_iff.1 h
    obtain ⟨info, -, h⟩ := bind_eq_ok_iff.1 h
    exact ⟨p, info, hp, by simpa using hstar, (Except.ok.inj h).symm⟩

/-- Each form takes its paths from the words behind the opening. -/
theorem Reads.madeFrom {ks : List Keyword} {tail ws : List (List Char)} {r : Except Fault Statement} {st : Statement}
    (h : Reads ks tail r) (hsub : tail ⊆ ws) (hst : r = .ok st) : MadeFrom ws st := by
  cases h with
  | complete h =>
    cases hst
    have hnone : ∀ q ∈ (none : Option Path), ∃ w ∈ ws, path w = .ok q := by simp
    simp only [completeForms, List.mem_cons, Prod.mk.injEq, List.not_mem_nil, or_false] at h
    rcases h with ⟨-, rfl⟩ | ⟨-, rfl⟩ | ⟨-, rfl⟩ | ⟨-, rfl⟩
    · exact .showDatabases hnone
    · exact .showDatabases hnone
    · exact .showDevices hnone
    · exact .showSeries hnone
  | onPath h w =>
    obtain ⟨p, hp, rfl⟩ := map_eq_ok_iff.1 hst
    have hw : w ∈ ws := hsub (List.mem_singleton_self w)
    have hsome : ∀ q ∈ some p, ∃ w ∈ ws, path w = .ok q := fun q hq => ⟨w, hw, Option.some.inj hq ▸ hp⟩
    simp only [pathForms, List.mem_cons, Prod.mk.injEq, List.not_mem_nil, or_false] at h
    rcases h with ⟨-, rfl⟩ | ⟨-, rfl⟩ | ⟨-, rfl⟩ | ⟨-, rfl⟩ | ⟨-, rfl⟩ | ⟨-, rfl⟩ | ⟨-, rfl⟩ | ⟨-, rfl⟩
    · exact .createDatabase hw hp
    · exact .createDatabase hw hp
    · exact .createDatabase hw hp
    · exact .deleteSeries hw hp
    · exact .showDatabases hsome
    · exact .showDatabases hsome
    · exact .showDevices hsome
    · exact .showSeries hsome
  | onList =>
    obtain ⟨ps, hps, rfl⟩ := map_eq_ok_iff.1 hst
    exact .deleteDatabases hsub hps
  | creation w =>
    obtain ⟨p, info, hp, hstar, rfl⟩ := exists_of_creation hst
    exact .createSeries info (hsub (List.mem_cons_self ..)) hp hstar

/-- A statement that reads is made from the words of its text. -/
theorem madeFrom_of_parse {sql : String} {st : Statement} (h : parse sql = .ok st) :
    MadeFrom (words (core sql.toList)) st := by
  obtain ⟨ks, front, tail, hwords, -, hreads⟩ := exists_reads_of_ofWords? (parse_eq_ok_iff.1 h)
  exact hreads.madeFrom (hwords ▸ List.subset_append_right front tail) rfl

/-! ## Paths that are created -/

/-- What the tree may rely on when it creates: a database's path is rooted and without blanks, and a
series' path is storable. -/
def CreatesSoundly : Statement → Prop
  | createDatabase p => p.Rooted ∧ ∀ c ∈ p.text.toList, isBlank c = false
  | createSeries p _ => p.Storable
  | _ => True

theorem createsSoundly_of_parse {sql : String} {st : Statement} (h : parse sql = .ok st) : st.CreatesSoundly := by
  cases madeFrom_of_parse h with
  | createDatabase hw hp =>
    obtain ⟨hroot, hmem⟩ := rooted_of_path hp
    exact ⟨hroot, fun c hc => words_noBlank hw c (hmem c hc)⟩
  | createSeries info hw hp hstar =>
    obtain ⟨hroot, hmem⟩ := rooted_of_path hp
    exact ⟨hroot, fun c hc => words_noBlank hw c (hmem c hc), by simpa [Path.hasStar] using hstar⟩
  | deleteDatabases | deleteSeries | showDatabases | showDevices | showSeries => trivial

end Statement

end SeriesCatalog
