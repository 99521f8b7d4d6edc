/-
Creations in another order. Databases and series that come in one after another come in in every order
that puts a series behind the database it lies in, and then the tree is the same.

A list of creations is taken in exactly if each of them finds room in the tree, no two of them stand in
each other's way, and each series has a user database above it, in the tree or earlier in the list. Of
these three only the last depends on the order. The induction on the list carries the tree along: what
has come in is no longer a matter of the list but of the tree, and a new database never stands in the
way of a series, nor a series in that of a database.
-/
import SeriesCatalog.Proofs.Statement.Single
import SeriesCatalog.Proofs.Tree.History
import SeriesCatalog.Proofs.Tree.Sequence

namespace SeriesCatalog

open SeriesCatalog.Path

namespace Statement

/-- The statement creates a database or a series. -/
def isCreation : Statement → Bool
  | createDatabase _ | createSeries .. => true
  | deleteDatabases _ | deleteSeries _ | showDatabases _ | showDevices _ | showSeries _ => false

/-- Two creations that may both be done: the paths of two databases do not overlap, nor do those of two series. -/
def Apart : Statement → Statement → Prop
  | createDatabase a, createDatabase b => Tree.overlaps a b = false
  | createSeries p _, createSeries q _ => Tree.overlaps p q = false
  | _, _ => True

theorem Apart.symm {st st' : Statement} (h : st.Apart st') : st'.Apart st := by
  have hoverlaps : ∀ {p q : Path}, Tree.overlaps p q = false → Tree.overlaps q p = false := by
    intro p q hpq
    obtain ⟨hne, hab, hba⟩ := Tree.overlaps_eq_false_iff.1 hpq
    exact Tree.overlaps_eq_false_iff.2 ⟨hne.symm, hba, hab⟩
  cases st <;> cases st' <;> first | trivial | exact hoverlaps h

instance : Std.Symm Apart := ⟨fun _ _ => Apart.symm⟩

/-- A series comes behind each database above it that the list creates. -/
def OwnersFirst (sts : List Statement) : Prop :=
  ∀ before p info after, sts = before ++ createSeries p info :: after →
    ∀ d, createDatabase d ∈ sts → d.isAncestorOf p = true → createDatabase d ∈ before

end Statement

namespace Tree

variable {t : Tree} {st : Statement} {sts : List Statement} {d : Path} {s : Series}

/-- Nothing in the tree stands in the way of a creation, and the path of a database is well formed. -/
def HasRoom (t : Tree) : Statement → Prop
  | .createDatabase d => '*' ∉ d.text.toList ∧ 2 ≤ d.nodes.length ∧ t.Free d
  | .createSeries p _ => ∀ s ∈ t.series, overlaps s.path p = false
  | _ => True

/-- A series that is created lies in a user database, which is in the tree or was created before. -/
def Houses (t : Tree) (before : List Statement) : Statement → Prop
  | .createSeries p _ =>
    ∃ d, (d ∈ t.databases ∨ .createDatabase d ∈ before) ∧ d ≠ systemDatabase ∧ d.isAncestorOf p = true
  | _ => True

/-- What makes a list of creations possible. -/
structure Takes (t : Tree) (sts : List Statement) : Prop where
  room : ∀ st ∈ sts, t.HasRoom st
  apart : sts.Pairwise Statement.Apart
  housed : ∀ before st after, sts = before ++ st :: after → t.Houses before st

/-! ## One creation -/

theorem Invariant.apply_isOk_iff (ht : t.Invariant) (hst : st.isCreation = true) :
    (t.apply st).1.isOk = true ↔ t.HasRoom st ∧ t.Houses [] st := by
  cases st with
  | createDatabase d =>
    show (t.settle (t.createDatabase d)).1.isOk = true ↔ _
    rw [settle_isOk_iff]
    simp [createDatabase_eq_ok_iff, HasRoom, Houses, Free]
  | createSeries p info =>
    show (t.settle (t.createSeries p info)).1.isOk = true ↔ _
    rw [settle_isOk_iff]
    simp only [createSeries_eq_ok_iff, ht.ownerOf?_eq_some_iff, HasRoom, Houses, overlaps_eq_false_iff, exists_and_left,
      exists_eq, and_true, List.not_mem_nil, or_false]
    rw [and_comm]
    exact and_congr_right fun _ => exists_congr fun d => and_right_comm.trans and_assoc
  | deleteDatabases | deleteSeries | showDatabases | showDevices | showSeries => cases hst

theorem makes_of_isOk (hst : st.isCreation = true) (hok : (t.apply st).1.isOk = true) : t.Makes st (t.apply st).2 := by
  refine makes_of_done ?_
  have hquery : st.isQuery = false := by cases st <;> first | rfl | cases hst
  rcases apply_of_not_isQuery (t := t) hquery with hdone | ⟨reason, herror⟩
  · exact hdone
  · rw [herror] at hok
    cases hok

section Step

variable (ht : t.Invariant) (hst : st.isCreation = true) (hok : (t.apply st).1.isOk = true)
include ht hst hok

theorem Invariant.mem_databases_apply : d ∈ (t.apply st).2.databases ↔ st = .createDatabase d ∨ d ∈ t.databases := by
  have hmakes := makes_of_isOk hst hok
  generalize (t.apply st).2 = t' at hmakes
  cases hmakes with
  | createDatabase h =>
    obtain ⟨-, -, hfree, rfl⟩ := createDatabase_eq_ok_iff.1 h
    rw [ht.mem_withDatabase (Free.notMem hfree), Statement.createDatabase.injEq, @eq_comm _ d]
  | createSeries h =>
    obtain ⟨-, -, rfl⟩ := createSeries_eq_ok_iff.1 h
    simp [withSeries]
  | deleteDatabases | deleteSeries => cases hst

theorem Invariant.mem_series_apply : s ∈ (t.apply st).2.series ↔ st = .createSeries s.path s.info ∨ s ∈ t.series := by
  rw [(makes_of_isOk hst hok).mem_series_iff ht]
  refine or_congr_right (and_iff_left ⟨?_, ?_⟩)
  · rintro pattern rfl
    cases hst
  · rintro patterns rfl
    cases hst

/-- After a creation there is room for what had room before and does not stand in its way. -/
theorem Invariant.hasRoom_apply (st' : Statement) :
    (t.apply st).2.HasRoom st' ↔ t.HasRoom st' ∧ st.Apart st' := by
  have hdatabases := fun d => ht.mem_databases_apply (d := d) hst hok
  have hseries := fun s => ht.mem_series_apply (s := s) hst hok
  cases st' with
  | createDatabase d =>
    have hfree : (t.apply st).2.Free d ↔ t.Free d ∧ st.Apart (.createDatabase d) := by
      simp only [Free, hdatabases, or_imp, forall_and]
      rw [and_comm]
      refine and_congr_right fun _ => ?_
      cases st <;> simp [Statement.Apart]
    simp only [HasRoom, hfree, and_assoc]
  | createSeries p info =>
    simp only [HasRoom, hseries, or_imp, forall_and]
    rw [and_comm]
    refine and_congr_right fun _ => ?_
    cases st with
    | createSeries q info' =>
      refine ⟨fun h => h ⟨q, info'⟩ rfl, fun h s he => ?_⟩
      cases he
      exact h
    | _ => simp [Statement.Apart]
  | _ => simp [HasRoom, Statement.Apart]

/-- A database that has come in houses what lies in it. -/
theorem Invariant.houses_apply (before : List Statement) (st' : Statement) :
    (t.apply st).2.Houses before st' ↔ t.Houses (st :: before) st' := by
  cases st' with
  | createSeries p info =>
    refine exists_congr fun d => ?_
    rw [ht.mem_databases_apply hst hok, List.mem_cons, @eq_comm _ st, or_assoc, or_left_comm]
  | _ => exact Iff.rfl

end Step

/-! ## Creations one after another -/

/-- Once the first creation is done, the list is taken in if the rest is by the tree with that creation. -/
theorem Invariant.takes_cons_iff (ht : t.Invariant) (hst : st.isCreation = true) (hok : (t.apply st).1.isOk = true) :
    t.Takes (st :: sts) ↔ (t.apply st).2.Takes sts := by
  have hroom := ht.hasRoom_apply hst hok
  have hhouses := ht.houses_apply hst hok
  constructor
  · intro h
    obtain ⟨hapart, hrest⟩ := List.pairwise_cons.1 h.apart
    refine ⟨fun x hx => (hroom x).2 ⟨h.room x (List.mem_cons_of_mem _ hx), hapart x hx⟩, hrest, ?_⟩
    rintro before x after rfl
    exact (hhouses before x).2 (h.housed (st :: before) x after rfl)
  · intro h
    obtain ⟨hfirst, hhoused⟩ := (ht.apply_isOk_iff hst).1 hok
    refine ⟨List.forall_mem_cons.2 ⟨hfirst, fun x hx => ((hroom x).1 (h.room x hx)).1⟩,
      List.pairwise_cons.2 ⟨fun x hx => ((hroom x).1 (h.room x hx)).2, h.apart⟩, ?_⟩
    intro before x after he
    cases before with
    | nil =>
      obtain ⟨rfl, rfl⟩ := List.cons.inj he
      exact hhoused
    | cons y before =>
      obtain ⟨rfl, hrest⟩ := List.cons.inj he
      exact (hhouses before x).1 (h.housed before x after hrest)

/-- All creations of a list are done exactly if the tree takes it in. -/
theorem Invariant.applyEach_isOk_iff (ht : t.Invariant) (hsts : ∀ st ∈ sts, st.isCreation = true ∧ st.CreatesSoundly) :
    (∀ answer ∈ (t.applyEach sts).1, answer.isOk = true) ↔ t.Takes sts := by
  induction sts generalizing t with
  | nil => exact iff_of_true nofun ⟨nofun, .nil, fun before st after he => by simp at he⟩
  | cons st sts ih =>
    obtain ⟨⟨hst, hsound⟩, hrest⟩ := List.forall_mem_cons.1 hsts
    rw [applyEach_cons, List.forall_mem_cons, ih (ht.apply hsound) hrest]
    constructor
    · rintro ⟨hok, htakes⟩
      exact (ht.takes_cons_iff hst hok).2 htakes
    · intro htakes
      have hok : (t.apply st).1.isOk = true :=
        (ht.apply_isOk_iff hst).2 ⟨htakes.room st (List.mem_cons_self ..), htakes.housed [] st sts rfl⟩
      exact ⟨hok, (ht.takes_cons_iff hst hok).1 htakes⟩

/-- Then the tree holds what it held and what the list created, and stays consistent. -/
theorem Invariant.applyEach_creations (ht : t.Invariant) (hsts : ∀ st ∈ sts, st.isCreation = true ∧ st.CreatesSoundly)
    (hok : ∀ answer ∈ (t.applyEach sts).1, answer.isOk = true) :
    (t.applyEach sts).2.Invariant ∧
      (∀ d, d ∈ (t.applyEach sts).2.databases ↔ .createDatabase d ∈ sts ∨ d ∈ t.databases) ∧
      ∀ s, s ∈ (t.applyEach sts).2.series ↔ .createSeries s.path s.info ∈ sts ∨ s ∈ t.series := by
  induction sts generalizing t with
  | nil => simp [ht]
  | cons st sts ih =>
    obtain ⟨⟨hst, hsound⟩, hrest⟩ := List.forall_mem_cons.1 hsts
    rw [applyEach_cons, List.forall_mem_cons] at hok
    obtain ⟨hinv, hdatabases, hseries⟩ := ih (ht.apply hsound) hrest hok.2
    refine ⟨hinv, fun d => ?_, fun s => ?_⟩
    · rw [applyEach_cons, hdatabases, ht.mem_databases_apply hst hok.1, List.mem_cons, @eq_comm _ st, or_assoc,
        or_left_comm]
    · rw [applyEach_cons, hseries, ht.mem_series_apply hst hok.1, List.mem_cons, @eq_comm _ st, or_assoc, or_left_comm]

/-! ## Another order -/

/-- In a list that is taken in, the database that houses a series comes first: any other one above it would overlap. -/
theorem Takes.ownersFirst (h : t.Takes sts) : Statement.OwnersFirst sts := by
  rintro before p info after he d hd habove
  obtain ⟨owner, howner, -, hanc⟩ := h.housed before _ after he
  have hover : overlaps owner d = true := overlaps_of_common hanc habove
  rcases howner with hstored | hcreated
  · obtain ⟨-, -, hfree⟩ : t.HasRoom (.createDatabase d) := h.room _ hd
    rw [hfree owner hstored] at hover
    cases hover
  · rcases eq_or_ne owner d with rfl | hne
    · exact hcreated
    · have hmem : .createDatabase owner ∈ sts := he ▸ List.mem_append_left _ hcreated
      have hapart : overlaps owner d = false := h.apart.forall hmem hd (by simpa using hne)
      rw [hapart] at hover
      cases hover

/-- Another order is taken in as soon as each series comes behind the database above it. -/
theorem Takes.reorder {reordered : List Statement} (h : t.Takes sts) (hperm : reordered.Perm sts)
    (hfirst : Statement.OwnersFirst reordered) : t.Takes reordered := by
  refine ⟨fun st hst => h.room st (hperm.subset hst), (hperm.pairwise_iff Statement.Apart.symm).2 h.apart, ?_⟩
  intro before st after he
  cases st with
  | createSeries p info =>
    have hmem : .createSeries p info ∈ sts := hperm.subset (he ▸ by simp)
    obtain ⟨front, back, hsts⟩ := List.append_of_mem hmem
    obtain ⟨d, hd, hne, habove⟩ := h.housed front _ back hsts
    refine ⟨d, hd.imp_right fun hcreated => ?_, hne, habove⟩
    have hin : .createDatabase d ∈ reordered := hperm.symm.subset (hsts ▸ List.mem_append_left _ hcreated)
    exact hfirst before p info after he d hin habove
  | createDatabase | deleteDatabases | deleteSeries | showDatabases | showDevices | showSeries => trivial

/-- On every tree that statements lead to, and for every list of creations that are all done there one after
another. The same creations in another order are all done exactly if each series comes behind the database
above it that the list creates, if there is one; and then they lead to the same tree. -/
theorem reordered_iff_ownersFirst (ht : t.Reachable) {reordered : List Statement}
    (hsts : ∀ st ∈ sts, st.isCreation = true ∧ ∃ sql, Statement.parse sql = .ok st)
    (hok : ∀ answer ∈ (t.applyEach sts).1, answer.isOk = true) (hperm : reordered.Perm sts) :
    ((∀ answer ∈ (t.applyEach reordered).1, answer.isOk = true) ↔ Statement.OwnersFirst reordered) ∧
      (Statement.OwnersFirst reordered → (t.applyEach reordered).2 = (t.applyEach sts).2) := by
  have hinv := ht.invariant
  have hsound : ∀ st ∈ sts, st.isCreation = true ∧ st.CreatesSoundly := fun st hst =>
    (hsts st hst).imp_right fun ⟨_, hparse⟩ => Statement.createsSoundly_of_parse hparse
  have hsound' : ∀ st ∈ reordered, st.isCreation = true ∧ st.CreatesSoundly := fun st hst =>
    hsound st (hperm.subset hst)
  have htakes := (hinv.applyEach_isOk_iff hsound).1 hok
  have hdone : (∀ answer ∈ (t.applyEach reordered).1, answer.isOk = true) ↔ Statement.OwnersFirst reordered := by
    rw [hinv.applyEach_isOk_iff hsound']
    exact ⟨Takes.ownersFirst, htakes.reorder hperm⟩
  refine ⟨hdone, fun hfirst => ?_⟩
  obtain ⟨hleft, hdatabases, hseries⟩ := hinv.applyEach_creations hsound hok
  obtain ⟨hleft', hdatabases', hseries'⟩ := hinv.applyEach_creations hsound' (hdone.2 hfirst)
  refine hleft'.ext hleft (fun d => ?_) fun s => ?_
  · rw [hdatabases, hdatabases', hperm.mem_iff]
  · rw [hseries, hseries', hperm.mem_iff]

/-- Series of two databases change places with both of them; in front of its own database a series is turned down. -/
theorem reordered_local :
    let t := initial.run ["create database root.c"]
    let a : Statement := .createDatabase ⟨"root.a"⟩
    let ab : Statement := .createDatabase ⟨"root.ab"⟩
    let x : Statement := .createSeries ⟨"root.a.x"⟩ Statement.floatInfo
    let y : Statement := .createSeries ⟨"root.c.y"⟩ Statement.floatInfo
    t.Reachable ∧ (∀ st ∈ [a, x, ab, y], st.isCreation = true ∧ ∃ sql, Statement.parse sql = .ok st) ∧
      (∀ answer ∈ (t.applyEach [a, x, ab, y]).1, answer.isOk = true) ∧
      (t.applyEach [y, ab, a, x]).2 = (t.applyEach [a, x, ab, y]).2 ∧ ¬ Statement.OwnersFirst [y, x, ab, a] := by
  intro t a ab x y
  have ht : t.Reachable := ⟨_, rfl⟩
  have hparsed : ∀ st ∈ [a, x, ab, y], st.isCreation = true ∧ ∃ sql, Statement.parse sql = .ok st := by
    simp only [List.forall_mem_cons]
    exact ⟨⟨rfl, "create database root.a", by rfl⟩, ⟨rfl, "create timeseries root.a.x with datatype=FLOAT", by rfl⟩,
      ⟨rfl, "create database root.ab", by rfl⟩, ⟨rfl, "create timeseries root.c.y with datatype=FLOAT", by rfl⟩, nofun⟩
  have hok : ∀ answer ∈ (t.applyEach [a, x, ab, y]).1, answer.isOk = true := by decide +kernel
  have hperm : [y, ab, a, x].Perm [a, x, ab, y] := by decide +kernel
  have hperm' : [y, x, ab, a].Perm [a, x, ab, y] := by decide +kernel
  have hlater := reordered_iff_ownersFirst ht hparsed hok hperm
  have hearlier := reordered_iff_ownersFirst ht hparsed hok hperm'
  refine ⟨ht, hparsed, hok, hlater.2 (hlater.1.1 (by decide +kernel)), fun hfirst => ?_⟩
  have hturned : ¬ ∀ answer ∈ (t.applyEach [y, x, ab, a]).1, answer.isOk = true := by decide +kernel
  exact hturned (hearlier.1.2 hfirst)

end Tree

end SeriesCatalog
