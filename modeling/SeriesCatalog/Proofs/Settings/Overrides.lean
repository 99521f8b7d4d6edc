/-
Settings under an environment, as a whole. The variables of a run and those of its engine are read one after
another as one list. As long as the values that are given fit their members, each member is the value of its
variable, or stays; the first value that does not fit ends the reading, and the settings are then those under
the environment that gives the variables before it only. Either way a second reading changes nothing.
-/
import SeriesCatalog.Settings.Check
import Mathlib.Data.List.Nodup

namespace SeriesCatalog.Settings

/-! ## Variables in a row -/

section

variable {σ : Type} {given given' : String → Option String} {vs ws : List (Variable σ)} {v : Variable σ} {s : σ}

/-- The settings with the value of one variable taken over, if it is given and fits. -/
def assign (given : String → Option String) (s : σ) (v : Variable σ) : σ := ((given v.name).bind (v.set · s)).getD s

/-- The settings with the values of all variables taken over that are given and fit. -/
def assigned (given : String → Option String) (vs : List (Variable σ)) (s : σ) : σ := vs.foldl (assign given) s

/-- The number of 16 bits that a value spells. -/
def portOf? (value : String) : Option UInt16 := (Bounded.read Bounded.max16 value.toList).toOption.map UInt16.ofNat

/-- The number of 64 bits that a value spells. -/
def amountOf? (value : String) : Option UInt64 := (Bounded.read Bounded.max64 value.toList).toOption.map UInt64.ofNat

/-- The variable takes its value, if it is given one, whatever the settings are. -/
def Variable.Takes (v : Variable σ) (given : String → Option String) : Prop :=
  ∀ value ∈ given v.name, ∀ s, (v.set value s).isSome

theorem assigned_nil : assigned given [] s = s := rfl

theorem assigned_cons : assigned given (v :: vs) s = assigned given vs (assign given s v) := rfl

theorem assigned_append : assigned given (vs ++ ws) s = assigned given ws (assigned given vs s) := List.foldl_append

/-- Variables that are not given change nothing. -/
theorem assigned_of_forall_none (h : ∀ v ∈ vs, given v.name = none) : assigned given vs s = s := by
  induction vs with
  | nil => rfl
  | cons v vs ih =>
    rw [List.forall_mem_cons] at h
    have hv : assign given s v = s := by rw [assign, h.1, Option.bind_none, Option.getD_none]
    rw [assigned, List.foldl_cons, hv]
    exact ih h.2

theorem assigned_congr (h : ∀ v ∈ vs, given v.name = given' v.name) : assigned given vs s = assigned given' vs s := by
  refine List.foldl_ext _ _ _ fun s v hv => ?_
  rw [assign, assign, h v hv]

/-- A variable gives its member the value, if one is given that reads, and leaves the member as it is otherwise. -/
theorem assign_eq {α : Type} (get : σ → α) {put : α → σ → σ} {read : String → Option α}
    (hset : ∀ value s, v.set value s = (read value).map (put · s)) (hput : ∀ s, put (get s) s = s) :
    assign given s v = put (((given v.name).bind read).getD (get s)) s := by
  rw [assign]
  cases given v.name with
  | none => exact (hput s).symm
  | some value =>
    rw [Option.bind_some, Option.bind_some, hset]
    cases read value with
    | none => exact (hput s).symm
    | some a => rfl

theorem assign_text {name member : String} (get : σ → String) {put : String → σ → σ} (hput : ∀ s, put (get s) s = s) :
    assign given s (.text name member put) = put ((given name).getD (get s)) s := by
  have hset : ∀ value s, (Variable.text name member put).set value s = (some value).map (put · s) := fun _ _ => rfl
  rw [assign_eq get hset hput, Option.bind_fun_some, Variable.text]

theorem assign_port {name member : String} (get : σ → UInt16) {put : UInt16 → σ → σ} (hput : ∀ s, put (get s) s = s) :
    assign given s (.port name member put) = put (((given name).bind portOf?).getD (get s)) s :=
  assign_eq get (fun _ _ => by rw [portOf?, Option.map_map]; rfl) hput

theorem assign_amount {name member : String} (get : σ → UInt64) {put : UInt64 → σ → σ} (hput : ∀ s, put (get s) s = s) :
    assign given s (.amount name member put) = put (((given name).bind amountOf?).getD (get s)) s :=
  assign_eq get (fun _ _ => by rw [amountOf?, Option.map_map]; rfl) hput

/-- Variables that take their values are read past. -/
theorem override_append (h : ∀ v ∈ vs, v.Takes given) :
    override given (vs ++ ws) s = override given ws (assigned given vs s) := by
  induction vs generalizing s with
  | nil => rfl
  | cons v vs ih =>
    rw [List.forall_mem_cons] at h
    rw [List.cons_append, override, assigned, List.foldl_cons, assign]
    cases hv : given v.name with
    | none => exact ih h.2
    | some value =>
      obtain ⟨s', hs'⟩ := Option.isSome_iff_exists.1 (h.1 value hv s)
      simp only [hs', Option.bind_some, Option.getD_some]
      exact ih h.2

theorem override_of_takes (h : ∀ v ∈ vs, v.Takes given) : override given vs s = (.ok (), assigned given vs s) := by
  rw [← List.append_nil vs, override_append h, List.append_nil]
  rfl

/-- A value that does not fit ends the reading. -/
theorem override_cons_of_refused {value : String} (hv : given v.name = some value) (hrefused : v.set value s = none) :
    override given (v :: vs) s = (.error (.invalidValue v.member value), s) := by
  simp only [override, hv, hrefused]

/-- Reading goes on from the first list to the second, unless it has ended. -/
theorem override_append_eq : override given (vs ++ ws) s =
    match override given vs s with
    | (.ok (), s') => override given ws s'
    | (.error fault, s') => (.error fault, s') := by
  induction vs generalizing s with
  | nil => rfl
  | cons v vs ih =>
    rw [List.cons_append, override, override]
    cases given v.name with
    | none => exact ih
    | some value =>
      cases hset : v.set value s with
      | none => simp only [hset]
      | some s' =>
        simp only [hset]
        exact ih

/-- A fault names a variable that was read. -/
theorem exists_of_override_error {fault : Fault} (h : (override given vs s).1 = .error fault) :
    ∃ v ∈ vs, ∃ value, fault = .invalidValue v.member value := by
  induction vs generalizing s with
  | nil => cases h
  | cons v vs ih =>
    rw [override] at h
    have hlater : ∀ s', (override given vs s').1 = .error fault →
        ∃ w ∈ v :: vs, ∃ value, fault = .invalidValue w.member value := by
      intro s' h
      obtain ⟨w, hw, hfault⟩ := ih h
      exact ⟨w, List.mem_cons_of_mem _ hw, hfault⟩
    split at h
    · exact hlater _ h
    · rename_i value _
      split at h
      · exact hlater _ h
      · cases h
        exact ⟨v, List.mem_cons_self .., value, rfl⟩

end

/-- The settings of an engine with each member at the value of its variable, where one is given, and as it was
otherwise; what is no number of a member's range counts as not given. -/
def Engine.under (s : Engine) (given : String → Option String) : Engine where
  requestTimeout := ((given "IOTDB_REQUEST_TIMEOUT_MS").bind amountOf?).getD s.requestTimeout
  connectTimeout := ((given "IOTDB_CONNECT_TIMEOUT_MS").bind amountOf?).getD s.connectTimeout
  idleConnections := ((given "IOTDB_POOL_MAX_IDLE_PER_HOST").bind amountOf?).getD s.idleConnections
  apiPrefix := (given "IOTDB_API_PREFIX").getD s.apiPrefix

/-- The variables of an engine cover all its members. -/
theorem Engine.assigned_overrides (given : String → Option String) (s : Engine) :
    assigned given overrides s = s.under given := by
  -- one variable after another, each with the member that it sets
  rw [overrides, assigned_cons, assign_amount requestTimeout, assigned_cons, assign_amount connectTimeout,
    assigned_cons, assign_amount idleConnections, assigned_cons, assign_text apiPrefix, assigned_nil]
  · rfl
  all_goals exact fun _ => rfl

/-! ## The variables of a run -/

namespace Check

variable {given : String → Option String} {s : Check}

/-- A variable of the engine as a variable of the run. -/
def ofEngine (v : Variable Engine) : Variable Check :=
  ⟨v.name, v.member, fun value s => (v.set value s.engine).map fun engine => { s with engine := engine }⟩

/-- All variables of the run and of its engine, in the order in which they are read. -/
def allOverrides : List (Variable Check) := overrides ++ Engine.overrides.map ofEngine

example : allOverrides.map (·.member) =
    ["image", "tag", "user", "password", "scheme", "native_port", "rest_port", "startup_timeout_secs",
      "request_timeout_ms", "connect_timeout_ms", "pool_max_idle_per_host", "api_prefix"] := rfl

theorem override_ofEngine (vs : List (Variable Engine)) :
    override given (vs.map ofEngine) s =
      ((override given vs s.engine).1, { s with engine := (override given vs s.engine).2 }) := by
  induction vs generalizing s with
  | nil => rfl
  | cons v vs ih =>
    rw [List.map_cons, override, override]
    cases hv : given v.name with
    | none => simp only [ofEngine, hv]; exact ih
    | some value =>
      simp only [ofEngine, hv]
      cases hset : v.set value s.engine with
      | none => rfl
      | some engine =>
        rw [Option.map_some]
        exact ih

/-- The error for a fault: the engine's own members are reported as by the engine. -/
def reported : Fault → CheckError
  | .invalidValue member value =>
    if member ∈ Engine.members then .catalog (.settings (.invalidValue member value))
    else .settings (.invalidValue member value)
  | fault => .settings fault

/-- Either way the error names the member and the value. -/
theorem message_reported (member value : String) :
    (reported (.invalidValue member value)).message = "Configuration error: Invalid " ++ member ++ ": " ++ value := by
  have htext : "Configuration error: " ++ (Fault.invalidValue member value).message =
      "Configuration error: Invalid " ++ member ++ ": " ++ value := by
    rw [Fault.message, ← String.append_assoc, ← String.append_assoc, ← String.append_assoc]
    rfl
  rw [reported]
  split <;> exact htext

theorem member_notMem_of_mem_overrides : ∀ v ∈ overrides, v.member ∉ Engine.members := by decide

theorem member_mem_of_mem_engine : ∀ v ∈ Engine.overrides, v.member ∈ Engine.members := by decide

/-- The run and its engine read their variables as one list. -/
theorem fromEnvironment_eq (given : String → Option String) (s : Check) :
    s.fromEnvironment given =
      ((override given allOverrides s).1.mapError reported, (override given allOverrides s).2) := by
  rw [allOverrides, override_append_eq, fromEnvironment, overridden]
  rcases hrun : override given overrides s with ⟨fault | _, s'⟩
  · obtain ⟨v, hv, value, rfl⟩ := exists_of_override_error (congrArg Prod.fst hrun)
    simp only [Except.mapError, reported, if_neg (member_notMem_of_mem_overrides v hv)]
  · simp only [override_ofEngine, Engine.fromEnvironment]
    rcases hengine : override given Engine.overrides s'.engine with ⟨fault | _, engine⟩
    · obtain ⟨v, hv, value, rfl⟩ := exists_of_override_error (congrArg Prod.fst hengine)
      simp only [Except.mapError, reported, if_pos (member_mem_of_mem_engine v hv)]
    · rfl

/-! ## Values -/

/-- The greatest number that a member takes; a member without one takes any text. -/
def greatest? (member : String) : Option Nat :=
  if member ∈ ["native_port", "rest_port"] then some Bounded.max16
  else if member ∈ ["startup_timeout_secs", "request_timeout_ms", "connect_timeout_ms", "pool_max_idle_per_host"] then
    some Bounded.max64
  else none

/-- The value of the variable, if it is given, is in the range of its member. -/
def Fits (given : String → Option String) (v : Variable Check) : Prop :=
  ∀ value ∈ given v.name, ∀ max ∈ greatest? v.member, (Bounded.read max value.toList).isOk = true

instance (given : String → Option String) (v : Variable Check) : Decidable (Fits given v) :=
  inferInstanceAs (Decidable (∀ value ∈ given v.name, ∀ max ∈ greatest? v.member,
    (Bounded.read max value.toList).isOk = true))

theorem isSome_toOption {ε α : Type} (r : Except ε α) : r.toOption.isSome = r.isOk := by cases r <;> rfl

/-- A variable takes exactly the values in the range of its member, whatever the settings are. -/
theorem isSome_set_iff {v : Variable Check} (hv : v ∈ allOverrides) (value : String) (s : Check) :
    (v.set value s).isSome = true ↔ ∀ max ∈ greatest? v.member, (Bounded.read max value.toList).isOk = true := by
  simp only [allOverrides, overrides, Engine.overrides, List.map_cons, List.map_nil, List.cons_append, List.nil_append,
    List.mem_cons, List.not_mem_nil, or_false] at hv
  rcases hv with rfl | rfl | rfl | rfl | rfl | rfl | rfl | rfl | rfl | rfl | rfl | rfl <;>
    simp [ofEngine, Variable.text, Variable.port, Variable.amount, greatest?, isSome_toOption]

theorem takes_iff_fits {v : Variable Check} (hv : v ∈ allOverrides) : v.Takes given ↔ Fits given v :=
  forall₂_congr fun value _ =>
    ⟨fun h => (isSome_set_iff hv value default).1 (h default), fun h s => (isSome_set_iff hv value s).2 h⟩

/-- The settings with each member at the value of its variable, where one is given, and as it was otherwise; what is no
number of a member's range counts as not given. -/
def under (s : Check) (given : String → Option String) : Check where
  image := (given "IOTDB_IT_IMAGE").getD s.image
  tag := (given "IOTDB_IT_TAG").getD s.tag
  user := (given "IOTDB_IT_USER").getD s.user
  password := (given "IOTDB_IT_PASSWORD").getD s.password
  scheme := (given "IOTDB_IT_SCHEME").getD s.scheme
  nativePort := ((given "IOTDB_IT_NATIVE_PORT").bind portOf?).getD s.nativePort
  restPort := ((given "IOTDB_IT_REST_PORT").bind portOf?).getD s.restPort
  startupTimeout := ((given "IOTDB_IT_STARTUP_TIMEOUT_SECS").bind amountOf?).getD s.startupTimeout
  readyMessage := s.readyMessage
  engine := s.engine.under given

theorem assigned_ofEngine (vs : List (Variable Engine)) (s : Check) :
    assigned given (vs.map ofEngine) s = { s with engine := assigned given vs s.engine } := by
  induction vs generalizing s with
  | nil => rfl
  | cons v vs ih =>
    have hv : assign given s (ofEngine v) = { s with engine := assign given s.engine v } := by
      rw [assign, assign, ofEngine]
      cases given v.name with
      | none => rfl
      | some value =>
        simp only [Option.bind_some]
        cases v.set value s.engine <;> rfl
    rw [List.map_cons, assigned, List.foldl_cons, hv]
    exact ih _

/-- The variables of a run cover all its members but the message by which the server says that it is ready. -/
theorem assigned_overrides (given : String → Option String) (s : Check) :
    assigned given overrides s = { s.under given with engine := s.engine } := by
  rw [overrides, assigned_cons, assign_text image, assigned_cons, assign_text tag, assigned_cons, assign_text user,
    assigned_cons, assign_text password, assigned_cons, assign_text scheme, assigned_cons, assign_port nativePort,
    assigned_cons, assign_port restPort, assigned_cons, assign_amount startupTimeout, assigned_nil]
  · dsimp only
    rfl
  all_goals exact fun _ => rfl

theorem assigned_allOverrides (given : String → Option String) (s : Check) :
    assigned given allOverrides s = s.under given := by
  rw [allOverrides, assigned_append, assigned_ofEngine, assigned_overrides, Engine.assigned_overrides]
  rfl

/-- The environment with these variables only. -/
def only (names : List String) (given : String → Option String) (name : String) : Option String :=
  if name ∈ names then given name else none

/-- Where the reading ends, the variables before that have been applied, and no others. -/
theorem assigned_before {before after : List (Variable Check)} (h : allOverrides = before ++ after) (s : Check) :
    assigned given before s = s.under (only (before.map (·.name)) given) := by
  have hnames : (allOverrides.map (·.name)).Nodup := by decide
  rw [h, List.map_append, List.nodup_append] at hnames
  rw [← assigned_allOverrides, h, assigned_append]
  have hafter : ∀ v ∈ after, only (before.map (·.name)) given v.name = none := fun v hv =>
    if_neg fun hbefore => hnames.2.2 _ hbefore _ (List.mem_map_of_mem hv) rfl
  rw [assigned_of_forall_none hafter]
  exact assigned_congr fun v hv => (if_pos (List.mem_map_of_mem hv)).symm

theorem under_under (s : Check) (given : String → Option String) : (s.under given).under given = s.under given := by
  have hagain : ∀ {α : Type} (o : Option α) (a : α), o.getD (o.getD a) = o.getD a := by
    intro α o a
    cases o <;> rfl
  simp only [under, Engine.under, hagain]

/-! ## A reading -/

theorem fromEnvironment_of_fits (h : ∀ v ∈ allOverrides, Fits given v) (s : Check) :
    s.fromEnvironment given = (.ok (), s.under given) := by
  rw [fromEnvironment_eq, override_of_takes fun v hv => (takes_iff_fits hv).2 (h v hv), assigned_allOverrides]
  rfl

theorem fromEnvironment_of_not_fits {before after : List (Variable Check)} {v : Variable Check} {value : String}
    (h : allOverrides = before ++ v :: after) (hbefore : ∀ w ∈ before, Fits given w) (hv : given v.name = some value)
    (hfits : ¬ Fits given v) (s : Check) :
    s.fromEnvironment given =
      (.error (reported (.invalidValue v.member value)), s.under (only (before.map (·.name)) given)) := by
  have hmem : ∀ w, w ∈ before ∨ w = v → w ∈ allOverrides := by
    intro w hw
    rw [h, List.mem_append, List.mem_cons]
    exact hw.imp_right .inl
  have hrefused : ∀ s, v.set value s = none := by
    intro s
    rw [← Option.not_isSome_iff_eq_none, isSome_set_iff (hmem v (.inr rfl))]
    intro htaken
    refine hfits fun value' hvalue' => ?_
    rw [hv, Option.mem_some_iff] at hvalue'
    exact hvalue' ▸ htaken
  rw [fromEnvironment_eq, h, override_append fun w hw => (takes_iff_fits (hmem w (.inl hw))).2 (hbefore w hw),
    override_cons_of_refused hv (hrefused _), assigned_before h]
  rfl

/-- Either all values fit, or there is a first one that does not. -/
theorem fits_or_exists_first (given : String → Option String) :
    (∀ v ∈ allOverrides, Fits given v) ∨ ∃ before v after value, allOverrides = before ++ v :: after ∧
      (∀ w ∈ before, Fits given w) ∧ given v.name = some value ∧ ¬ Fits given v := by
  cases hfirst : allOverrides.find? (fun v => ¬ Fits given v) with
  | none => exact .inl (by simpa using hfirst)
  | some v =>
    obtain ⟨hv, before, after, hsplit, hbefore⟩ := List.find?_eq_some_iff_append.1 hfirst
    have hv : ¬ Fits given v := by simpa using hv
    cases hvalue : given v.name with
    | none =>
      refine absurd (fun value hmem => ?_) hv
      rw [hvalue] at hmem
      cases hmem
    | some value => exact .inr ⟨before, v, after, value, hsplit, by simpa using hbefore, hvalue, hv⟩

/-- If all values that are given are in the range of their members, each member has the value of its variable
or stays. If not, the first that is not is reported with its member; the variables before it have been
applied, and those behind it have no effect. A second reading of the same environment has the same result and
changes nothing. -/
theorem fromEnvironment_outcome (given : String → Option String) (s : Check) :
    ((∀ v ∈ allOverrides, Fits given v) → s.fromEnvironment given = (.ok (), s.under given)) ∧
    (∀ before v after value, allOverrides = before ++ v :: after → (∀ w ∈ before, Fits given w) →
      given v.name = some value → ¬ Fits given v →
      s.fromEnvironment given =
          (.error (reported (.invalidValue v.member value)), s.under (only (before.map (·.name)) given)) ∧
        (reported (.invalidValue v.member value)).message =
          "Configuration error: Invalid " ++ v.member ++ ": " ++ value) ∧
    (s.fromEnvironment given).2.fromEnvironment given = s.fromEnvironment given := by
  refine ⟨fun h => fromEnvironment_of_fits h s, fun before v after value h hbefore hv hfits =>
    ⟨fromEnvironment_of_not_fits h hbefore hv hfits s, message_reported ..⟩, ?_⟩
  rcases fits_or_exists_first given with h | ⟨before, v, after, value, h, hbefore, hv, hfits⟩
  · rw [fromEnvironment_of_fits h, fromEnvironment_of_fits h, under_under]
  · rw [fromEnvironment_of_not_fits h hbefore hv hfits, fromEnvironment_of_not_fits h hbefore hv hfits, under_under]

/-- Of these variables the engine's first is empty, so it is reported and those behind it have no effect; without it all
are taken over, the plus sign before a port included. -/
theorem fromEnvironment_outcome_default :
    let given := fun name => [("IOTDB_REQUEST_TIMEOUT_MS", ""), ("IOTDB_IT_REST_PORT", "+65535"),
      ("IOTDB_CONNECT_TIMEOUT_MS", "18446744073709551616"), ("IOTDB_API_PREFIX", "/api")].lookup name
    let given' := fun name => [("IOTDB_IT_REST_PORT", "+65535"), ("IOTDB_API_PREFIX", "/api")].lookup name
    fromEnvironment {} given =
        (.error (.catalog (.settings (.invalidValue "request_timeout_ms" ""))), { restPort := 65535 }) ∧
      fromEnvironment {} given' = (.ok (), { restPort := 65535, engine := { apiPrefix := "/api" } }) := by
  intro given given'
  have hsplit : allOverrides = overrides ++ allOverrides.get ⟨8, by decide⟩ :: allOverrides.drop 9 := rfl
  constructor
  · rw [((fromEnvironment_outcome given {}).2.1 _ _ _ "" hsplit (by decide) rfl (by decide)).1]
    rfl
  · rw [(fromEnvironment_outcome given' {}).1 (by decide)]
    rfl

end Check

end SeriesCatalog.Settings
