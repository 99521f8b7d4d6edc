/-
Statements applied one after another, each to the tree that the one before it left, whatever became of
that one. A deletion of databases by several patterns is the deletions by each of them alone: what an
earlier pattern took away is not there for a later one to select, but the whole list would have taken
it away as well, and a database that is gone takes no other one with it. So neither the order of the
patterns nor their repetitions matter, and the whole list is done as soon as one of them is.
-/
import SeriesCatalog.Proofs.Tree.Edit

namespace SeriesCatalog.Tree

variable {t : Tree} {a b patterns more : List Path} {db : Path}

/-- Applies statements one after another: the answer to each, and the tree after the last. -/
def applyEach (t : Tree) : List Statement → List (Except Rejection Outcome) × Tree
  | [] => ([], t)
  | st :: rest =>
    let (answer, after) := t.apply st
    let (answers, last) := after.applyEach rest
    (answer :: answers, last)

@[simp] theorem applyEach_nil (t : Tree) : t.applyEach [] = ([], t) := rfl

@[simp] theorem applyEach_cons (t : Tree) (st : Statement) (rest : List Statement) :
    t.applyEach (st :: rest) =
      ((t.apply st).1 :: ((t.apply st).2.applyEach rest).1, ((t.apply st).2.applyEach rest).2) := rfl

/-! ## Databases that are selected -/

theorem mem_selectedDatabases :
    db ∈ t.selectedDatabases patterns ↔ db ∈ t.userDatabases ∧ ∃ p ∈ patterns, db.fits p = true := by
  rw [selectedDatabases, List.mem_filter, List.any_eq_true]

/-- Only the members of a list of patterns matter. -/
theorem selectedDatabases_congr (t : Tree) (h : ∀ p, p ∈ patterns ↔ p ∈ more) :
    t.selectedDatabases patterns = t.selectedDatabases more := by
  refine List.filter_congr fun db _ => ?_
  rw [Bool.eq_iff_iff, List.any_eq_true, List.any_eq_true]
  simp only [h]

/-- What is gone is not selected, and everything else is selected as before. -/
theorem mem_selectedDatabases_without :
    db ∈ (t.without a).selectedDatabases patterns ↔ db ∈ t.selectedDatabases patterns ∧ db ∉ a := by
  have huser : db ∈ (t.without a).userDatabases ↔ db ∈ t.userDatabases ∧ db ∉ a := by
    simp only [userDatabases, without, List.mem_filter, decide_eq_true_eq]
    exact and_right_comm
  rw [mem_selectedDatabases, mem_selectedDatabases, huser]
  exact and_right_comm

theorem without_without (t : Tree) (a b : List Path) : (t.without a).without b = t.without (a ++ b) := by
  simp only [without, List.filter_filter, Tree.mk.injEq]
  constructor
  · refine List.filter_congr fun db _ => ?_
    rw [Bool.eq_iff_iff]
    simp [and_comm]
  · refine List.filter_congr fun s _ => ?_
    rw [List.any_append, Bool.not_or, Bool.and_comm]

/-! ## Deletions one after another -/

/-- The databases that fit one list of patterns go, then of the others those that fit a second list. -/
theorem apply_deleteDatabases_append (t : Tree) (patterns more : List Path) :
    ((t.apply (.deleteDatabases patterns)).2.apply (.deleteDatabases more)).2 =
      (t.apply (.deleteDatabases (patterns ++ more))).2 := by
  rw [apply_deleteDatabases_snd, apply_deleteDatabases_snd, apply_deleteDatabases_snd, without_without]
  refine without_congr fun db => ?_
  have happend : db ∈ t.selectedDatabases (patterns ++ more) ↔
      db ∈ t.selectedDatabases patterns ∨ db ∈ t.selectedDatabases more := by
    simp only [mem_selectedDatabases, List.mem_append, or_and_right, exists_or, and_or_left]
  rw [List.mem_append, mem_selectedDatabases_without, happend]
  tauto

theorem apply_deleteDatabases_isOk_iff (t : Tree) (patterns : List Path) :
    (t.apply (.deleteDatabases patterns)).1.isOk = true ↔ ∃ db, db ∈ t.selectedDatabases patterns := by
  show (t.settle (t.deleteDatabases patterns)).1.isOk = true ↔ _
  rw [settle_isOk_iff, ← List.length_pos_iff_exists_mem, List.length_pos_iff]
  simp [deleteDatabases_eq_ok_iff]

/-- A pattern is done by itself, or nothing goes by it and what the others select is still there. -/
theorem apply_deleteDatabases_cons_isOk_iff (t : Tree) (p : Path) (patterns : List Path) :
    (t.apply (.deleteDatabases (p :: patterns))).1.isOk = true ↔
      (t.apply (.deleteDatabases [p])).1.isOk = true ∨
        ((t.apply (.deleteDatabases [p])).2.apply (.deleteDatabases patterns)).1.isOk = true := by
  have hcons : ∀ db, db ∈ t.selectedDatabases (p :: patterns) ↔
      db ∈ t.selectedDatabases [p] ∨ db ∈ t.selectedDatabases patterns := by
    intro db
    simp only [mem_selectedDatabases, List.mem_cons, List.not_mem_nil, or_false, or_and_right, exists_or, and_or_left]
  simp only [apply_deleteDatabases_isOk_iff, apply_deleteDatabases_snd, mem_selectedDatabases_without, hcons]
  rw [← exists_or]
  refine exists_congr fun db => ?_
  tauto

/-- The deletions by single patterns. -/
def singleDeletions (patterns : List Path) : List Statement := patterns.map fun p => .deleteDatabases [p]

theorem applyEach_singleDeletions (t : Tree) (patterns : List Path) :
    (t.applyEach (singleDeletions patterns)).2 = (t.apply (.deleteDatabases patterns)).2 ∧
      ((∃ answer ∈ (t.applyEach (singleDeletions patterns)).1, answer.isOk = true) ↔
        (t.apply (.deleteDatabases patterns)).1.isOk = true) := by
  induction patterns generalizing t with
  | nil =>
    rw [apply_deleteDatabases_snd, apply_deleteDatabases_isOk_iff]
    simp [singleDeletions, selectedDatabases, without_nil]
  | cons p patterns ih =>
    obtain ⟨hafter, hdone⟩ := ih (t.apply (.deleteDatabases [p])).2
    rw [singleDeletions, List.map_cons, ← singleDeletions, applyEach_cons, hafter, apply_deleteDatabases_append]
    refine ⟨rfl, ?_⟩
    rw [apply_deleteDatabases_cons_isOk_iff, ← hdone]
    simp

/-- On every tree, whether statements lead to it or not. The deletion of databases by a list of patterns leaves the tree
that the deletions by single patterns leave, in any order of these and with any repetitions, even if some of them are
turned down; and it is done exactly if one of them is. -/
theorem deleteDatabases_eq_singleDeletions (t : Tree) (patterns singles : List Path)
    (h : ∀ p, p ∈ singles ↔ p ∈ patterns) :
    (t.apply (.deleteDatabases patterns)).2 = (t.applyEach (singleDeletions singles)).2 ∧
      ((t.apply (.deleteDatabases patterns)).1.isOk = true ↔
        ∃ answer ∈ (t.applyEach (singleDeletions singles)).1, answer.isOk = true) := by
  obtain ⟨hafter, hdone⟩ := t.applyEach_singleDeletions singles
  rw [hafter, hdone, apply_deleteDatabases_snd, apply_deleteDatabases_snd, apply_deleteDatabases_isOk_iff,
    apply_deleteDatabases_isOk_iff, t.selectedDatabases_congr h]
  exact ⟨rfl, Iff.rfl⟩

/-- Three patterns overlap and one fits nothing. In the other order, with two of them again, the first takes
away what the others select, so that only it is done. -/
theorem deleteDatabases_eq_singleDeletions_local :
    let t := initial.run ["create database root.a", "create database root.b.c",
      "create timeseries root.a.x with datatype=INT32"]
    let patterns := [⟨"root.a"⟩, ⟨"root.d"⟩, ⟨"root.*.c"⟩, ⟨"root.**"⟩]
    let singles := [⟨"root.**"⟩, ⟨"root.*.c"⟩, ⟨"root.a"⟩, ⟨"root.d"⟩, ⟨"root.a"⟩, ⟨"root.**"⟩]
    (∀ p, p ∈ singles ↔ p ∈ patterns) ∧
      (t.apply (.deleteDatabases patterns)).2 = (t.applyEach (singleDeletions singles)).2 ∧
      (t.applyEach (singleDeletions singles)).1.map (·.isOk) = [true, false, false, false, false, false] := by
  intro t patterns singles
  have hmem : ∀ p, p ∈ singles ↔ p ∈ patterns := by
    intro p
    simp only [singles, patterns, List.mem_cons, List.not_mem_nil, or_false]
    tauto
  exact ⟨hmem, (deleteDatabases_eq_singleDeletions t patterns singles hmem).1, by rfl⟩

end SeriesCatalog.Tree
