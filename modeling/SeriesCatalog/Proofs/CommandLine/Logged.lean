/-
What a run logs of its checks. Each outcome of the report is recorded once, in the order of the report, and
nothing else is recorded, so the log and the report that are printed side by side tell of the same failures.
-/
import SeriesCatalog.Proofs.CommandLine.Verdict

namespace SeriesCatalog

namespace Check

open Log Scenario

/-- The event records a check. -/
def isRecord (e : Event) : Bool := e.source == "dialect_harness::report"

theorem isRecord_recorded (o : Report.Outcome) : isRecord (recorded o) = true := by
  unfold recorded
  split <;> rfl

theorem filter_recorded (l : List Report.Outcome) : (l.map recorded).filter isRecord = l.map recorded :=
  List.filter_eq_self.2 <| List.forall_mem_map.2 fun o _ => isRecord_recorded o

theorem filter_asked (sql : Except CatalogError String) : (asked sql).filter isRecord = [] := by
  cases sql <;> rfl

theorem filter_attempted (a : Attempt) : (attempted a).filter isRecord = [] := by
  rcases a with ⟨sql, _ | _⟩ <;> rfl

theorem filter_teardownEvent (a : Attempt) : (teardownEvent a).filter isRecord = [] := by
  rcases a with ⟨sql, _ | _⟩ <;> rfl

theorem filter_read (columns : Except CatalogError (List Column)) : (read columns).filter isRecord = [] := by
  cases columns with
  | error error => rfl
  | ok columns =>
    refine List.filter_eq_nil_iff.2 fun e he => ?_
    obtain ⟨c, -, hc⟩ := List.mem_filterMap.1 he
    unfold unmapped at hc
    split at hc
    · cases hc
      exact Bool.false_ne_true
    · cases hc

theorem filter_flatMap_eq_nil {f : Attempt → List Event} (hf : ∀ a, (f a).filter isRecord = []) (l : List Attempt) :
    (l.flatMap f).filter isRecord = [] := by
  rw [List.filter_flatMap, List.flatMap_eq_nil_iff]
  exact fun a _ => hf a

theorem filter_setupEvents (l : List Attempt) : (setupEvents l).filter isRecord = [] := by
  unfold setupEvents
  rw [List.filter_append, filter_flatMap_eq_nil filter_attempted]
  cases ended l <;> rfl

theorem filter_checkEvents (l : Except CatalogError Listings) :
    (checkEvents l).filter isRecord = (checks l).map recorded := by
  cases l with
  | error error => exact filter_recorded _
  | ok l =>
    have hrecorded : ∀ o, [recorded o].filter isRecord = [recorded o] := fun o => filter_recorded [o]
    simp only [checkEvents, List.filter_append, filter_asked, filter_read, hrecorded]
    rfl

/-- The scenario records the outcomes of its report. -/
theorem filter_scenarioEvents (target : String) (a : Answers) :
    (scenarioEvents target a).filter isRecord = a.outcomes.map recorded := by
  have hclosed : [closed a.teardown].filter isRecord = [] := rfl
  have hdisposed :
      [(⟨.info, "iotdb_dialect::engine", "Disposed engine for " ++ target⟩ : Event)].filter isRecord = [] := rfl
  have hcleanup : [recorded (judgeCleanup a.left)].filter isRecord = [judgeCleanup a.left].map recorded :=
    filter_recorded [judgeCleanup a.left]
  unfold scenarioEvents
  simp only [List.filter_append, filter_setupEvents, filter_checkEvents, filter_flatMap_eq_nil filter_teardownEvent,
    filter_asked, hclosed, hcleanup, hdisposed, List.nil_append, List.append_nil]
  rw [Answers.outcomes, List.map_append]

theorem filter_connecting (registry : Registry) (url : ServerUrl) : (connecting registry url).filter isRecord = [] := by
  unfold connecting
  split <;> rfl

end Check

namespace CommandLine

variable {σ : Type} {around : Surroundings σ} {a : Arguments} {text : String}

/-- A run that is not rejected records every check of its report, in the order of the report, and no other. -/
theorem recorded_of_run {args : List String} (hstarts : around.starts = true) (hargs : parse? args = some (.check a))
    (htext : a.url = some text) (h : ¬ Rejected around a) (s : σ) :
    ∃ c u r, Reports around a s c u r ∧
      ((run around args).run s).1.events.filter Check.isRecord = r.outcomes.map Check.recorded := by
  obtain ⟨c, u, e, hsettings, hurl, hconnect⟩ := exists_connect htext h
  refine ⟨c, u, _, reports_of_connect hsettings hurl hconnect s, ?_⟩
  rw [run_of_starts hstarts hargs, check_of_connect hsettings hurl hconnect]
  have hrunning : Check.isRecord (running u) = false := rfl
  show (running u :: _).filter Check.isRecord = _
  rw [List.filter_cons_of_neg (by simp [hrunning]), List.filter_append, Check.filter_connecting, List.nil_append,
    Check.filter_scenarioEvents]
  rfl

end CommandLine

end SeriesCatalog
