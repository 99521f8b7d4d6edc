/-
Reports of an acceptance run: the outcomes of its checks in their order. A report shows every failure
between two lines of stars, then a summary.
-/
namespace SeriesCatalog

/-- The outcome of a check: what was observed, and a description if it failed. -/
structure Report.Outcome where
  name : String
  passed : Bool
  actual : String
  message : String
  deriving DecidableEq, Repr, Inhabited

/-- The outcomes of a run. -/
structure Report where
  outcomes : List Report.Outcome := []
  deriving DecidableEq, Repr, Inhabited

namespace Report

/-- The outcome of a check that passed. -/
def Outcome.pass (name actual : String) : Outcome := ⟨name, true, actual, ""⟩

/-- The outcome of a check that failed. -/
def Outcome.fail (name actual message : String) : Outcome := ⟨name, false, actual, message⟩

/-- The first outcome of this name. -/
def outcome? (r : Report) (name : String) : Option Outcome := r.outcomes.find? (·.name == name)

/-- The outcomes of checks that failed. -/
def failures (r : Report) : List Outcome := r.outcomes.filter (!·.passed)

/-- The number of checks that failed. -/
def failedCount (r : Report) : Nat := r.failures.length

/-- No check failed. -/
def isSuccess (r : Report) : Bool := r.failedCount == 0

/-- The exit code of a run with this report. -/
def exitCode (r : Report) : Nat := if r.isSuccess then 0 else 1

/-- The line before and after a failure. -/
def separator : String := "*********\n"

/-- A failure as it is shown. -/
def Outcome.shown (o : Outcome) : String :=
  separator ++ o.actual ++ "\n" ++ o.message ++ "\n" ++ separator

/-- The last lines of a report. -/
def summary (r : Report) : String :=
  if r.isSuccess then "All executions done!!\n"
  else
    "Some test failed, please have a check\nfailed count: " ++ toString r.failedCount ++ "\n"

/-- The report as it is shown. -/
def shown (r : Report) : String := String.join (r.failures.map Outcome.shown) ++ r.summary

example : (Report.mk [.pass "a" "1", .fail "b" "2" "b failed!"]).shown =
    "*********\n2\nb failed!\n*********\nSome test failed, please have a check\nfailed count: 1\n" := by
  decide +kernel

end Report

end SeriesCatalog
