/-
The run of the scenario call by call, over any transport. Statements that create run up to the first
that fails; the checks between setup and teardown run one after another, each in the state that the
one before it left; both deletions run whatever becomes of them; the last check comes after them.
-/
import SeriesCatalog.Scenario

namespace SeriesCatalog.Scenario

variable {σ : Type} {e : Engine σ}

/-! ## Statements -/

theorem run_attempt (e : Engine σ) (sql : String) (s : σ) :
    (attempt e sql).run s = (⟨sql, ((e.execute sql).on s).1⟩, ((e.execute sql).on s).2) := rfl

theorem ended_cons_ok {a : Attempt} (h : a.answer = .ok ()) (l : List Attempt) : ended (a :: l) = ended l := by
  unfold ended
  rw [List.forM_eq_forM, List.forM_cons, h]
  rfl

theorem ended_of_error {a : Attempt} {error : CatalogError} (h : a.answer = .error error) :
    ended [a] = .error error := by
  unfold ended
  rw [List.forM_eq_forM, List.forM_cons, h]
  rfl

/-- What is kept of statements run up to a failure tells how they end. -/
theorem on_forM_execute (e : Engine σ) (l : List String) (s : σ) :
    Call.on (l.forM e.execute) s =
      (ended ((attemptUpToFailure e l).run s).1, ((attemptUpToFailure e l).run s).2) := by
  induction l generalizing s with
  | nil => rfl
  | cons sql l ih =>
    rw [Call.on_forM_cons, attemptUpToFailure, StateT.run_bind, run_attempt]
    rcases (e.execute sql).on s with ⟨error | ⟨⟩, s'⟩
    · exact congrArg (·, s') (ended_of_error rfl).symm
    · refine (ih s').trans (congrArg (·, ((attemptUpToFailure e l).run s').2) ?_)
      exact (ended_cons_ok rfl _).symm

theorem run_teardown (e : Engine σ) (s : σ) :
    ((teardown e).run s).2 =
      ((e.execute "delete database root.cursor_s1").on ((e.execute "delete database root.cursor").on s).2).2 :=
  rfl

/-! ## Checks -/

theorem run_inspect (e : Engine σ) (s : σ) :
    (inspect e).run s =
      let (schemas, s) := e.schemaNames.on s
      let (tables, s) := (e.tableNames fixtureSchema).on s
      let (columns, s) := (e.columns "device1" fixtureSchema).on s
      (⟨schemas, tables, columns⟩, s) :=
  rfl

/-- Nothing is left of the fixture if neither database is named. -/
theorem filter_left_eq_nil_iff {names : List String} :
    names.filter (fun name => name == fixtureSchema || name == secondSchema) = [] ↔
      fixtureSchema ∉ names ∧ secondSchema ∉ names := by
  simp only [List.filter_eq_nil_iff, Bool.or_eq_true, beq_iff_eq, not_or]
  exact ⟨fun h => ⟨fun hm => (h _ hm).1 rfl, fun hm => (h _ hm).2 rfl⟩,
    fun h name hm => ⟨fun he => h.1 (he ▸ hm), fun he => h.2 (he ▸ hm)⟩⟩

/-! ## The run -/

/-- The end of a run, which is the same whatever these outcomes are: teardown, the last check and the report. -/
def ending (e : Engine σ) (checks : List Report.Outcome) (s : σ) : (Report × Engine σ) × σ :=
  ((⟨checks ++ [judgeCleanup (e.schemaNames.on ((teardown e).run s).2).1]⟩, e.dispose),
    (e.schemaNames.on ((teardown e).run s).2).2)

/-- The run after setup ended so. -/
theorem run_of_setup {s s' : σ} {result : Except CatalogError Unit}
    (h : Call.on (setupStatements.forM e.execute) s = (result, s')) :
    (run e).run s =
      let (listings, s) := (inspectAfter e result).run s'
      ending e (checks listings) s := by
  have hrun : (run e).run s =
      let (attempts, s) := (setup e).run s
      let (listings, s) := (inspectAfter e (ended attempts)).run s
      ending e (checks listings) s := rfl
  rw [on_forM_execute, Prod.mk.injEq] at h
  obtain ⟨rfl, rfl⟩ := h
  exact hrun

theorem run_of_setup_error {s s' : σ} {error : CatalogError}
    (h : Call.on (setupStatements.forM e.execute) s = (.error error, s')) :
    (run e).run s = ending e (skipped error) s' :=
  run_of_setup h

theorem run_of_setup_ok {s s' : σ} (h : Call.on (setupStatements.forM e.execute) s = (.ok (), s')) :
    (run e).run s = ending e ((inspect e).run s').1.outcomes ((inspect e).run s').2 :=
  run_of_setup h

end SeriesCatalog.Scenario
