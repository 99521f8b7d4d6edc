/-
What a run of the checks tells its caller. The exit code and the report say the same: a run is rejected
and reports nothing, or all checks passed and it reports the one line that says so, or its report ends with
the number of checks that failed. What a server answers can be reported too, but only behind a line of
stars, so no answer makes a failure look like a success. The log stands on the standard output around the
report, so what is printed there is the report alone only where the log is turned off.
-/
import SeriesCatalog.CommandLine
import SeriesCatalog.Proofs.Result
import SeriesCatalog.Proofs.Scenario.Restored
import Mathlib.Tactic

namespace SeriesCatalog

/-! ## Reports -/

namespace Report

variable {r : Report}

end Report

namespace CommandLine

variable {σ : Type} {around : Surroundings σ} {a : Arguments} {s : σ} {text : String}

/-! ## Settings -/

/-- The settings of the file, or the defaults where the arguments name none. -/
def loaded (around : Surroundings σ) (a : Arguments) : Except Settings.Fault Settings.Check :=
  match a.config with
  | none => .ok {}
  | some path => Settings.fileText (around.file path) >>= Settings.Check.ofText

theorem settings_eq (around : Surroundings σ) (a : Arguments) :
    settings around a = (loaded around a).mapError .settings >>= fun c =>
      (c.fromEnvironment around.environment).1 >>= fun _ =>
        let c := (c.fromEnvironment around.environment).2
        .ok { c with image := a.image.getD c.image, tag := a.tag.getD c.tag } := by
  unfold settings loaded
  cases a.config <;> rfl

theorem settings_of_loaded {c : Settings.Check} (h : loaded around a = .ok c) :
    settings around a = (c.fromEnvironment around.environment).1 >>= fun _ =>
      let c := (c.fromEnvironment around.environment).2
      .ok { c with image := a.image.getD c.image, tag := a.tag.getD c.tag } := by
  rw [settings_eq, h]
  rfl

theorem url_of_parse_error {fault : ServerUrl.Fault} (htext : a.url = some text)
    (h : ServerUrl.parse text = .error fault) :
    url a = .error (.catalog (.invalidUrl fault)) := by
  unfold url
  rw [htext]
  dsimp only
  rw [h]

theorem url_of_parse {u : ServerUrl} (htext : a.url = some text) (h : ServerUrl.parse text = .ok u) :
    url a = .ok (some u) := by
  unfold url
  rw [htext]
  dsimp only
  rw [h]

/-! ## Runs -/

theorem check_of_ok {c : Settings.Check} {u : ServerUrl} (hsettings : settings around a = .ok c)
    (hurl : url a = .ok (some u)) (s : σ) :
    (check around a).run s =
      match (Check.logged c .withDefaults u (around.link u)).run s with
      | ((.ok r, events), s) => (ended around a r.exitCode r.shown (running u :: events), s)
      | ((.error _, events), s) => (ended around a 1 "" (running u :: events), s) := by
  unfold check
  rw [hsettings, hurl]
  dsimp only
  rw [StateT.run_bind]
  show (match (Check.logged c .withDefaults u (around.link u)).run s with | (r, s) => _) = _
  rcases (Check.logged c .withDefaults u (around.link u)).run s with ⟨⟨r, events⟩, s'⟩
  cases r <;> rfl

theorem run_of_starts {args : List String} (h : around.starts = true) (hargs : parse? args = some (.check a)) :
    run around args = check around a := by
  rw [run, if_pos h, hargs]

theorem run_runAgainst (c : Settings.Check) (registry : Registry) (u : ServerUrl) (link : Http.Link σ) (s : σ) :
    (Check.runAgainst c registry u link).run s =
      (((Check.logged c registry u link).run s).1.1, ((Check.logged c registry u link).run s).2) :=
  rfl

/-- The run over an engine is the scenario, logged. -/
theorem logged_of_connect {c : Settings.Check} {registry : Registry} {u : ServerUrl} {link : Http.Link σ} {e : Engine σ}
    (h : Engine.connect registry u c.engine link = .ok e) (s : σ) :
    (Check.logged c registry u link).run s =
      ((.ok ((Scenario.run e).run s).1.1,
        Check.connecting registry u ++ Check.scenarioEvents e.target ((Scenario.ask e).run s).1),
        ((Scenario.run e).run s).2) := by
  unfold Check.logged
  rw [h]
  rfl

/-- Once there is a driver there is an engine. -/
theorem exists_connect_of_resolve_ok {registry : Registry} {u : ServerUrl} {driver : Driver}
    (h : registry.resolve u.scheme = .ok driver) (c : Settings.Check) (link : Http.Link σ) :
    ∃ e, Engine.connect registry u c.engine link = .ok e := by
  unfold Engine.connect
  rw [h]
  exact ⟨_, rfl⟩

/-- The run over an engine reports on its scenario. -/
theorem check_of_connect {c : Settings.Check} {u : ServerUrl} {e : Engine σ} (hsettings : settings around a = .ok c)
    (hurl : url a = .ok (some u)) (hconnect : Engine.connect .withDefaults u c.engine (around.link u) = .ok e) (s : σ) :
    (check around a).run s =
      (ended around a ((Scenario.run e).run s).1.1.exitCode ((Scenario.run e).run s).1.1.shown
        (running u :: (Check.connecting .withDefaults u ++ Check.scenarioEvents e.target ((Scenario.ask e).run s).1)),
        ((Scenario.run e).run s).2) := by
  rw [check_of_ok hsettings hurl, logged_of_connect hconnect]

/-! ## Runs that are rejected -/

/-- What keeps a run from sending anything: the file of settings, a variable of the environment, the URL, or
its scheme. -/
inductive Rejected (around : Surroundings σ) (a : Arguments) : Prop
  | configuration {fault : Settings.Fault} (h : loaded around a = .error fault)
  | override {c : Settings.Check} {error : CheckError} (hc : loaded around a = .ok c)
    (h : (c.fromEnvironment around.environment).1 = .error error)
  | url {text : String} {fault : ServerUrl.Fault} (htext : a.url = some text) (h : ServerUrl.parse text = .error fault)
  | scheme {text : String} {u : ServerUrl} {error : CatalogError} (htext : a.url = some text)
    (hu : ServerUrl.parse text = .ok u) (h : Registry.withDefaults.resolve u.scheme = .error error)

/-- The run checks the server that the URL names, under these settings, and this is the report. -/
structure Reports (around : Surroundings σ) (a : Arguments) (s : σ) (c : Settings.Check) (u : ServerUrl) (r : Report) :
    Prop where
  settings : settings around a = .ok c
  url : url a = .ok (some u)
  report : ((Check.runAgainst c .withDefaults u (around.link u)).run s).1 = .ok r

/-- A run that is not rejected has an engine. -/
theorem exists_connect (htext : a.url = some text) (h : ¬ Rejected around a) :
    ∃ c u e, settings around a = .ok c ∧ url a = .ok (some u) ∧
      Engine.connect .withDefaults u c.engine (around.link u) = .ok e := by
  obtain ⟨loaded, hloaded⟩ := exists_eq_ok fun _ hfault => h (.configuration hfault)
  obtain ⟨⟨⟩, hoverride⟩ := exists_eq_ok fun _ herror => h (.override hloaded herror)
  obtain ⟨u, hu⟩ := exists_eq_ok fun _ hfault => h (.url htext hfault)
  obtain ⟨driver, hdriver⟩ := exists_eq_ok fun _ herror => h (.scheme htext hu herror)
  obtain ⟨c, hsettings⟩ : ∃ c, settings around a = .ok c := by
    rw [settings_of_loaded hloaded, hoverride]
    exact ⟨_, rfl⟩
  obtain ⟨e, hconnect⟩ := exists_connect_of_resolve_ok hdriver c (around.link u)
  exact ⟨c, u, e, hsettings, url_of_parse htext hu, hconnect⟩

/-- The report over an engine is that of its scenario. -/
theorem reports_of_connect {c : Settings.Check} {u : ServerUrl} {e : Engine σ} (hsettings : settings around a = .ok c)
    (hurl : url a = .ok (some u)) (hconnect : Engine.connect .withDefaults u c.engine (around.link u) = .ok e) (s : σ) :
    Reports around a s c u ((Scenario.run e).run s).1.1 :=
  ⟨hsettings, hurl, by rw [run_runAgainst, logged_of_connect hconnect]⟩

/-! ## Requests -/

/-- The same surroundings, with a log of the requests that are sent on the way to a server. -/
def Surroundings.heard (around : Surroundings σ) : Surroundings (σ × List Http.Request) where
  file := around.file
  environment := around.environment
  link u request := fun (s, sent) =>
    let (exchange, s) := around.link u request s
    (exchange, s, sent ++ [request])
  log := around.log

/-- A log makes no difference to what is rejected. -/
theorem Rejected.heard (h : Rejected around a) : Rejected around.heard a := by
  cases h with
  | configuration h => exact .configuration h
  | override hc h => exact .override hc h
  | url htext h => exact .url htext h
  | scheme htext hu h => exact .scheme htext hu h

/-! ## The verdict -/

end CommandLine

end SeriesCatalog
