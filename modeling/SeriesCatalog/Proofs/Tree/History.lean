/-
What a tree remembers of the run that led to it. A series is stored exactly if some step of the run
created it and no later step deleted it, be it by a pattern of its own or together with the database
that owned it when it was created; a database is stored exactly if some step created it and no later
step deleted it. Nothing else leaves a trace, and the properties of a series stay as they were declared.

One step is described first: what is stored after it was created by it, or was stored before and is not
deleted by it. For a series this is said together with its owner, which is the same as long as the
series is stored. The run then follows by induction on its last step.
-/
import SeriesCatalog.Proofs.Tree.Effect
import SeriesCatalog.Proofs.Tree.Reachable

namespace SeriesCatalog.Tree

open SeriesCatalog.Path

variable {t t' : Tree} {sql : String} {st : Statement} {d p owner : Path} {info : SeriesInfo}

/-! ## Steps -/

/-- The text runs the statement on the tree, and the statement is done. -/
def Does (t : Tree) (sql : String) (st : Statement) : Prop :=
  Statement.parse sql = .ok st ∧ (t.execute sql).1 = .ok .done

theorem Does.unique {st' : Statement} (h : t.Does sql st) (h' : t.Does sql st') : st' = st :=
  Except.ok.inj (h'.1.symm.trans h.1)

/-- A text changes nothing, or some statement that it runs is done. -/
theorem execute_snd_eq_or_does (t : Tree) (sql : String) : (t.execute sql).2 = t ∨ ∃ st, t.Does sql st := by
  cases hparse : Statement.parse sql with
  | error fault =>
    rw [execute_of_parse_error hparse]
    exact .inl rfl
  | ok st =>
    by_cases hdone : (t.execute sql).1 = .ok .done
    · exact .inr ⟨st, hparse, hdone⟩
    · rw [execute_of_parse_ok hparse] at hdone ⊢
      exact .inl (by_contra fun hchanged => hdone ((apply_eq_done_iff t st).2 hchanged))

theorem not_does_of_unchanged (h : (t.execute sql).2 = t) (st : Statement) : ¬ t.Does sql st := by
  rintro ⟨hparse, hdone⟩
  rw [execute_of_parse_ok hparse] at h hdone
  exact (apply_eq_done_iff t st).1 hdone h

/-- What a statement that is done makes of the tree. -/
inductive Makes (t : Tree) : Statement → Tree → Prop
  | createDatabase {p : Path} {t' : Tree} (h : t.createDatabase p = .ok t') : Makes t (.createDatabase p) t'
  | deleteDatabases {ps : List Path} {t' : Tree} (h : t.deleteDatabases ps = .ok t') : Makes t (.deleteDatabases ps) t'
  | createSeries {p : Path} {info : SeriesInfo} {t' : Tree} (h : t.createSeries p info = .ok t') :
      Makes t (.createSeries p info) t'
  | deleteSeries {p : Path} {t' : Tree} (h : t.deleteSeries p = .ok t') : Makes t (.deleteSeries p) t'

theorem makes_of_done (hdone : (t.apply st).1 = .ok .done) : t.Makes st (t.apply st).2 := by
  cases st with
  | createDatabase p => exact .createDatabase (eq_ok_of_settle hdone)
  | deleteDatabases ps => exact .deleteDatabases (eq_ok_of_settle hdone)
  | createSeries p info => exact .createSeries (eq_ok_of_settle hdone)
  | deleteSeries p => exact .deleteSeries (eq_ok_of_settle hdone)
  | showDatabases | showDevices | showSeries => cases hdone

theorem Does.makes (h : t.Does sql st) : t.Makes st (t.execute sql).2 := by
  obtain ⟨hparse, hdone⟩ := h
  rw [execute_of_parse_ok hparse] at hdone ⊢
  exact makes_of_done hdone

/-! ## Databases after a step -/

/-- The text deletes the databases of some patterns, and the path fits one of them. -/
def DeletesDatabase (t : Tree) (sql : String) (d : Path) : Prop :=
  ∃ patterns, t.Does sql (.deleteDatabases patterns) ∧ ∃ q ∈ patterns, d.fits q = true

theorem mem_without_iff {patterns : List Path} :
    d ∈ (t.without (t.selectedDatabases patterns)).databases ↔
      d ∈ t.databases ∧ (d ≠ systemDatabase → ∀ q ∈ patterns, d.fits q = false) := by
  simp only [without, selectedDatabases, userDatabases, List.mem_filter, decide_eq_true_eq, List.any_eq_true,
    not_and, not_exists, Bool.not_eq_true]
  exact and_congr_right fun hd => ⟨fun h hne q hq => h ⟨hd, hne⟩ q hq, fun h hd q hq => h hd.2 q hq⟩

theorem Makes.mem_databases_iff (h : t.Makes st t') (ht : t.Invariant) (hd : d ≠ systemDatabase) :
    d ∈ t'.databases ↔ st = .createDatabase d ∨
      d ∈ t.databases ∧ ∀ patterns, st = .deleteDatabases patterns → ∀ q ∈ patterns, d.fits q = false := by
  cases h with
  | createDatabase h =>
    rename_i p
    obtain ⟨-, -, hover, rfl⟩ := createDatabase_eq_ok_iff.1 h
    have hnew : p ∉ t.databases := fun hp => (overlaps_eq_false_iff.1 (hover p hp)).1 rfl
    rw [ht.mem_withDatabase hnew, @eq_comm _ d p]
    simp
  | deleteDatabases h =>
    obtain ⟨-, rfl⟩ := deleteDatabases_eq_ok_iff.1 h
    simp [mem_without_iff, hd]
  | createSeries h =>
    obtain ⟨-, -, rfl⟩ := createSeries_eq_ok_iff.1 h
    simp [withSeries]
  | deleteSeries h =>
    obtain ⟨-, rfl⟩ := deleteSeries_eq_ok_iff.1 h
    simp

theorem mem_userDatabases_iff : d ∈ t.userDatabases ↔ d ∈ t.databases ∧ d ≠ systemDatabase := by
  simp [userDatabases]

/-- The system database is there already, so it is never created. -/
theorem Invariant.ne_systemDatabase_of_does (ht : t.Invariant) (h : t.Does sql (.createDatabase d)) :
    d ≠ systemDatabase := by
  rintro rfl
  cases h.makes with
  | createDatabase h =>
    obtain ⟨-, -, hover, -⟩ := createDatabase_eq_ok_iff.1 h
    exact (overlaps_eq_false_iff.1 (hover _ ht.system)).1 rfl

/-- A user database that is stored after a step was created by it, or was stored before and is not deleted. -/
theorem Invariant.mem_userDatabases_execute (ht : t.Invariant) (sql : String) :
    d ∈ (t.execute sql).2.userDatabases ↔
      t.Does sql (.createDatabase d) ∨ d ∈ t.userDatabases ∧ ¬ t.DeletesDatabase sql d := by
  rcases execute_snd_eq_or_does t sql with hsame | ⟨st, hdoes⟩
  · have hnot := not_does_of_unchanged hsame
    rw [hsame]
    simp [hnot, DeletesDatabase]
  · have hiff : ∀ st', t.Does sql st' ↔ st = st' := fun st' => ⟨fun h => h.unique hdoes, fun h => h ▸ hdoes⟩
    rw [mem_userDatabases_iff, mem_userDatabases_iff]
    by_cases hd : d = systemDatabase
    · have hnot : ¬ t.Does sql (.createDatabase d) := fun h => ht.ne_systemDatabase_of_does h hd
      simp [hd, hd ▸ hnot]
    · rw [hdoes.makes.mem_databases_iff ht hd]
      simp [hiff, DeletesDatabase, hd]

/-! ## Series after a step -/

/-- The text deletes the series of some pattern, which the path fits, or the databases of some patterns, one of which
the owner fits. -/
def DeletesSeries (t : Tree) (sql : String) (p owner : Path) : Prop :=
  (∃ pattern, t.Does sql (.deleteSeries pattern) ∧ p.fits pattern = true) ∨ t.DeletesDatabase sql owner

/-- The series is stored with these properties, below this database. -/
def Keeps (t : Tree) (p : Path) (info : SeriesInfo) (owner : Path) : Prop :=
  ⟨p, info⟩ ∈ t.series ∧ t.ownerOf? p = some owner

/-- Databases are deleted with the series that they own. -/
theorem Invariant.mem_series_without (ht : t.Invariant) {patterns : List Path} {s : Series} :
    s ∈ (t.without (t.selectedDatabases patterns)).series ↔
      s ∈ t.series ∧ ∀ db, t.ownerOf? s.path = some db → ∀ q ∈ patterns, db.fits q = false := by
  simp only [Tree.without, List.mem_filter, Bool.not_eq_true']
  refine and_congr_right fun hs => ?_
  obtain ⟨owner, hdb, howner, hne, -⟩ := ht.exists_owner hs
  have hselected : owner ∈ t.selectedDatabases patterns ↔ ∃ q ∈ patterns, owner.fits q = true := by
    simp [selectedDatabases, userDatabases, hdb, hne]
  rw [Bool.eq_false_iff, Ne, ht.any_isAncestorOf_iff howner (t.selectedDatabases_subset patterns), hselected, howner]
  simp

theorem Makes.mem_series_iff (h : t.Makes st t') (ht : t.Invariant) {s : Series} :
    s ∈ t'.series ↔ st = .createSeries s.path s.info ∨
      s ∈ t.series ∧ (∀ pattern, st = .deleteSeries pattern → s.path.fits pattern = false) ∧
        ∀ patterns, st = .deleteDatabases patterns → ∀ db, t.ownerOf? s.path = some db →
          ∀ q ∈ patterns, db.fits q = false := by
  cases h with
  | createDatabase h =>
    obtain ⟨-, -, -, rfl⟩ := createDatabase_eq_ok_iff.1 h
    simp [withDatabase]
  | deleteDatabases h =>
    obtain ⟨-, rfl⟩ := deleteDatabases_eq_ok_iff.1 h
    rw [ht.mem_series_without]
    simp
  | createSeries h =>
    rename_i p info
    obtain ⟨-, hapart, rfl⟩ := createSeries_eq_ok_iff.1 h
    have heq : s = ⟨p, info⟩ ↔ p = s.path ∧ info = s.info := by
      cases s
      simp [eq_comm]
    rw [ht.mem_withSeries fun r hr => (hapart r hr).1, heq]
    simp
  | deleteSeries h =>
    obtain ⟨-, rfl⟩ := deleteSeries_eq_ok_iff.1 h
    simp

/-- A series has the owner that it had before the step, or that its path had if the step created it. -/
theorem Makes.ownerOf?_eq (h : t.Makes st t') (ht : t.Invariant) (ht' : t'.Invariant) {s : Series}
    (hs : s ∈ t'.series) :
    t'.ownerOf? s.path = t.ownerOf? s.path := by
  cases h with
  | createDatabase h =>
    rename_i p
    obtain ⟨-, -, hover, rfl⟩ := createDatabase_eq_ok_iff.1 h
    obtain ⟨db, hdb, howner, -, hanc⟩ := ht.exists_owner (s := s) hs
    have hnew : p ∉ t.databases := fun hp => (overlaps_eq_false_iff.1 (hover p hp)).1 rfl
    rw [howner, ht'.ownerOf?_eq_some_iff]
    exact ⟨(ht.mem_withDatabase hnew).2 (.inr hdb), hanc⟩
  | deleteDatabases h =>
    obtain ⟨-, rfl⟩ := deleteDatabases_eq_ok_iff.1 h
    exact ht.ownerOf?_without (t.systemDatabase_notMem_selectedDatabases _) hs
  | createSeries h =>
    obtain ⟨-, -, rfl⟩ := createSeries_eq_ok_iff.1 h
    rfl
  | deleteSeries h =>
    obtain ⟨-, rfl⟩ := deleteSeries_eq_ok_iff.1 h
    rfl

/-- A series that is stored after a step was created by it below its owner, or was stored there before and is not
deleted. -/
theorem Invariant.keeps_execute (ht : t.Invariant) (sql : String) :
    (t.execute sql).2.Keeps p info owner ↔
      (t.Does sql (.createSeries p info) ∧ t.ownerOf? p = some owner) ∨
        t.Keeps p info owner ∧ ¬ t.DeletesSeries sql p owner := by
  rcases execute_snd_eq_or_does t sql with hsame | ⟨st, hdoes⟩
  · have hnot := not_does_of_unchanged hsame
    rw [hsame]
    simp [hnot, DeletesSeries, DeletesDatabase]
  · have hiff : ∀ st', t.Does sql st' ↔ st = st' := fun st' => ⟨fun h => h.unique hdoes, fun h => h ▸ hdoes⟩
    have howner : ⟨p, info⟩ ∈ (t.execute sql).2.series → (t.execute sql).2.ownerOf? p = t.ownerOf? p :=
      fun hs => hdoes.makes.ownerOf?_eq (s := ⟨p, info⟩) ht (ht.execute sql) hs
    have hkeeps : (t.execute sql).2.Keeps p info owner ↔
        ⟨p, info⟩ ∈ (t.execute sql).2.series ∧ t.ownerOf? p = some owner :=
      and_congr_right fun hs => by rw [howner hs]
    rw [hkeeps, hdoes.makes.mem_series_iff ht, or_and_right, ← hiff]
    refine or_congr_right ?_
    -- the only owner that the step can concern is the one that the path has
    constructor
    · rintro ⟨⟨hs, hseries, hdatabases⟩, ho⟩
      refine ⟨⟨hs, ho⟩, ?_⟩
      rintro (⟨pattern, hd, hfits⟩ | ⟨patterns, hd, q, hq, hfits⟩)
      · rw [hseries pattern ((hiff _).1 hd)] at hfits
        cases hfits
      · rw [hdatabases patterns ((hiff _).1 hd) owner ho q hq] at hfits
        cases hfits
    · rintro ⟨⟨hs, ho⟩, hnot⟩
      refine ⟨⟨hs, ?_, ?_⟩, ho⟩
      · intro pattern he
        exact Bool.eq_false_iff.2 fun hfits => hnot (.inl ⟨pattern, (hiff _).2 he, hfits⟩)
      · intro patterns he db hdb q hq
        rw [ho, Option.some_inj] at hdb
        exact Bool.eq_false_iff.2 fun hfits => hnot (.inr ⟨patterns, (hiff _).2 he, q, hq, hdb ▸ hfits⟩)

/-! ## Runs -/

/-- The tree before step `k` of the run of the texts on the initial tree. -/
def before (texts : List String) (k : Nat) : Tree := initial.run (texts.take k)

/-- At step `k` of the run a text runs the statement, and the statement is done. -/
def DoneAt (texts : List String) (k : Nat) (st : Statement) : Prop :=
  ∃ sql, texts[k]? = some sql ∧ (before texts k).Does sql st

theorem before_append {texts : List String} {k : Nat} (h : k ≤ texts.length) (more : List String) :
    before (texts ++ more) k = before texts k := by
  rw [before, List.take_append_of_le_length h, ← before]

theorem before_length (texts : List String) : before texts texts.length = initial.run texts := by
  rw [before, List.take_length]

theorem run_concat (t : Tree) (texts : List String) (sql : String) :
    t.run (texts ++ [sql]) = ((t.run texts).execute sql).2 := by
  rw [run_append, run_cons, run_nil]

/-- What holds after a step exactly if the step began it, or it held before and the step does not end it, holds at the
end of a run exactly if some step began it and no later step ends it. -/
theorem holds_run_iff {P : Tree → Prop} {Begins Ends : Tree → String → Prop} (hinitial : ¬ P initial)
    (hstep : ∀ t : Tree, t.Invariant → ∀ sql, P (t.execute sql).2 ↔ Begins t sql ∨ P t ∧ ¬ Ends t sql)
    (texts : List String) :
    P (initial.run texts) ↔ ∃ k sql, texts[k]? = some sql ∧ Begins (before texts k) sql ∧
      ∀ j later, k < j → texts[j]? = some later → ¬ Ends (before texts j) later := by
  induction texts using List.reverseRecOn with
  | nil => simp [hinitial]
  | append_singleton texts last ih =>
    have hold : ∀ {k sql}, k < texts.length → ((texts ++ [last])[k]? = some sql ↔ texts[k]? = some sql) :=
      fun hk => by rw [List.getElem?_append_left hk]
    have hlast : (texts ++ [last])[texts.length]? = some last := by simp
    have hbefore : ∀ {k}, k ≤ texts.length → before (texts ++ [last]) k = before texts k :=
      fun hk => before_append hk [last]
    have hlt : ∀ {k sql}, (texts ++ [last])[k]? = some sql → k < texts.length ∨ k = texts.length := by
      intro k sql hk
      obtain ⟨hk, -⟩ := List.getElem?_eq_some_iff.1 hk
      rw [List.length_append, List.length_singleton] at hk
      omega
    rw [run_concat, hstep _ (invariant_initial.run texts), ih, ← before_length, ← hbefore le_rfl]
    constructor
    · rintro (hbegins | ⟨⟨k, sql, hk, hbegins, hlater⟩, hends⟩)
      · refine ⟨texts.length, last, hlast, hbegins, fun j later hj hget => ?_⟩
        rcases hlt hget with h | h <;> omega
      · have hkl : k < texts.length := (List.getElem?_eq_some_iff.1 hk).1
        refine ⟨k, sql, (hold hkl).2 hk, by rwa [hbefore hkl.le], fun j later hj hget => ?_⟩
        -- the later step is one of those before the last, or the last
        rcases hlt hget with hjl | rfl
        · rw [hbefore hjl.le]
          exact hlater j later hj ((hold hjl).1 hget)
        · rw [hlast, Option.some_inj] at hget
          exact hget ▸ hends
    · rintro ⟨k, sql, hk, hbegins, hlater⟩
      rcases hlt hk with hkl | rfl
      · refine .inr ⟨⟨k, sql, (hold hkl).1 hk, by rwa [← hbefore hkl.le], fun j later hj hget => ?_⟩,
          hlater _ _ hkl hlast⟩
        have hjl : j < texts.length := (List.getElem?_eq_some_iff.1 hget).1
        rw [← hbefore hjl.le]
        exact hlater j later hj ((hold hjl).2 hget)
      · rw [hlast, Option.some_inj] at hk
        exact .inl (hk ▸ hbegins)

theorem Invariant.info?_eq_some_iff (ht : t.Invariant) : t.info? p = some info ↔ ⟨p, info⟩ ∈ t.series := by
  unfold info?
  rw [Option.map_eq_some_iff]
  constructor
  · rintro ⟨s, hs, rfl⟩
    have hp : s.path = p := by simpa using List.find?_some hs
    exact hp ▸ List.mem_of_find?_eq_some hs
  · intro hmem
    cases hfind : t.series.find? (·.path == p) with
    | none => exact absurd (beq_self_eq_true p) (List.find?_eq_none.1 hfind _ hmem)
    | some s =>
      have hp : s.path = p := by simpa using List.find?_some hfind
      exact ⟨s, rfl, by rw [ht.series_eq (List.mem_of_find?_eq_some hfind) hmem hp]⟩

/-- A step that leaves a series stored leaves it with the same properties. -/
theorem Invariant.info?_execute (ht : t.Invariant) {info' : SeriesInfo} (hbefore : t.info? p = some info)
    (hafter : (t.execute sql).2.info? p = some info') : info' = info := by
  have hmem := ht.info?_eq_some_iff.1 hbefore
  have hmem' := (ht.execute sql).info?_eq_some_iff.1 hafter
  obtain ⟨db, -, howner, -, -⟩ := (ht.execute sql).exists_owner hmem'
  rcases (ht.keeps_execute sql).1 ⟨hmem', howner⟩ with ⟨hdoes, -⟩ | ⟨⟨hstored, -⟩, -⟩
  · -- a series is created only where none is stored
    cases hdoes.makes with
    | createSeries h =>
      obtain ⟨-, hapart, -⟩ := createSeries_eq_ok_iff.1 h
      exact absurd rfl (hapart _ hmem).1
  · have hsame : (⟨p, info'⟩ : Series) = ⟨p, info⟩ := ht.series_eq hstored hmem rfl
    exact congrArg Series.info hsame

/-! ## What is stored at the end -/

/-- No step behind `k` deletes the database. -/
theorem no_deletesDatabase_after_iff {texts : List String} {k : Nat} :
    (∀ j later, k < j → texts[j]? = some later → ¬ (before texts j).DeletesDatabase later d) ↔
      ∀ j patterns, k < j → DoneAt texts j (.deleteDatabases patterns) → ∀ q ∈ patterns, d.fits q = false := by
  constructor
  · rintro h j patterns hj ⟨later, hget, hdoes⟩ q hq
    exact Bool.eq_false_iff.2 fun hfits => h j later hj hget ⟨patterns, hdoes, q, hq, hfits⟩
  · rintro h j later hj hget ⟨patterns, hdoes, q, hq, hfits⟩
    rw [h j patterns hj ⟨later, hget, hdoes⟩ q hq] at hfits
    cases hfits

/-- No step behind `k` deletes the series, be it by its own path or with its owner. -/
theorem no_deletesSeries_after_iff {texts : List String} {k : Nat} :
    (∀ j later, k < j → texts[j]? = some later → ¬ (before texts j).DeletesSeries later p owner) ↔
      (∀ j pattern, k < j → DoneAt texts j (.deleteSeries pattern) → p.fits pattern = false) ∧
        ∀ j patterns, k < j → DoneAt texts j (.deleteDatabases patterns) → ∀ q ∈ patterns, owner.fits q = false := by
  simp only [DeletesSeries, not_or, imp_and, forall_and]
  refine and_congr ?_ no_deletesDatabase_after_iff
  constructor
  · rintro h j pattern hj ⟨later, hget, hdoes⟩
    exact Bool.eq_false_iff.2 fun hfits => h j later hj hget ⟨pattern, hdoes, hfits⟩
  · rintro h j later hj hget ⟨pattern, hdoes, hfits⟩
    rw [h j pattern hj ⟨later, hget, hdoes⟩] at hfits
    cases hfits

theorem keeps_run_iff (texts : List String) :
    (initial.run texts).Keeps p info owner ↔
      ∃ k, DoneAt texts k (.createSeries p info) ∧ (before texts k).ownerOf? p = some owner ∧
        (∀ j pattern, k < j → DoneAt texts j (.deleteSeries pattern) → p.fits pattern = false) ∧
        ∀ j patterns, k < j → DoneAt texts j (.deleteDatabases patterns) → ∀ q ∈ patterns, owner.fits q = false := by
  have hinitial : ¬ initial.Keeps p info owner := fun h => List.not_mem_nil h.1
  rw [holds_run_iff (P := fun t => t.Keeps p info owner) hinitial fun t ht sql => ht.keeps_execute sql]
  simp only [no_deletesSeries_after_iff]
  refine exists_congr fun k => ?_
  constructor
  · rintro ⟨sql, hget, ⟨hdoes, howner⟩, hlater⟩
    exact ⟨⟨sql, hget, hdoes⟩, howner, hlater⟩
  · rintro ⟨⟨sql, hget, hdoes⟩, howner, hlater⟩
    exact ⟨sql, hget, ⟨hdoes, howner⟩, hlater⟩

theorem mem_userDatabases_run_iff (texts : List String) (d : Path) :
    d ∈ (initial.run texts).userDatabases ↔
      ∃ k, DoneAt texts k (.createDatabase d) ∧
        ∀ j patterns, k < j → DoneAt texts j (.deleteDatabases patterns) → ∀ q ∈ patterns, d.fits q = false := by
  have hinitial : ¬ d ∈ initial.userDatabases := fun h => by simp [userDatabases, initial] at h
  rw [holds_run_iff (P := fun t => d ∈ t.userDatabases) hinitial fun t ht sql => ht.mem_userDatabases_execute sql]
  simp only [no_deletesDatabase_after_iff]
  refine exists_congr fun k => ?_
  constructor
  · rintro ⟨sql, hget, hdoes, hlater⟩
    exact ⟨⟨sql, hget, hdoes⟩, hlater⟩
  · rintro ⟨⟨sql, hget, hdoes⟩, hlater⟩
    exact ⟨sql, hget, hdoes, hlater⟩

/-- The run of any texts on the initial tree, failing ones among them. At its end a series is stored with some
properties exactly if some step created it with these, and no later step deleted series by a pattern that its path fits
or databases by a pattern that the database fits which owned it at that step. A user database is stored exactly if some
step created it and no later step deleted databases by a pattern that it fits. No further step alters the properties
of a series that stays. -/
theorem stored_iff_created_since (texts : List String) :
    (∀ p info, (initial.run texts).info? p = some info ↔
      ∃ k owner, DoneAt texts k (.createSeries p info) ∧ (before texts k).ownerOf? p = some owner ∧
        (∀ j pattern, k < j → DoneAt texts j (.deleteSeries pattern) → p.fits pattern = false) ∧
        ∀ j patterns, k < j → DoneAt texts j (.deleteDatabases patterns) → ∀ q ∈ patterns, owner.fits q = false) ∧
    (∀ d, d ∈ (initial.run texts).userDatabases ↔
      ∃ k, DoneAt texts k (.createDatabase d) ∧
        ∀ j patterns, k < j → DoneAt texts j (.deleteDatabases patterns) → ∀ q ∈ patterns, d.fits q = false) ∧
    ∀ p info info' sql, (initial.run texts).info? p = some info →
      ((initial.run texts).execute sql).2.info? p = some info' → info' = info := by
  have ht : (initial.run texts).Invariant := invariant_initial.run texts
  refine ⟨fun p info => ?_, mem_userDatabases_run_iff texts, fun p info info' sql => ht.info?_execute⟩
  have hkeeps : (initial.run texts).info? p = some info ↔ ∃ owner, (initial.run texts).Keeps p info owner := by
    rw [ht.info?_eq_some_iff]
    constructor
    · intro hs
      obtain ⟨db, -, howner, -, -⟩ := ht.exists_owner hs
      exact ⟨db, hs, howner⟩
    · rintro ⟨owner, hs, -⟩
      exact hs
  rw [hkeeps, exists_comm]
  simp only [keeps_run_iff]

end SeriesCatalog.Tree
