/-
Engines that are listened to. Each turn of the conversation with the server, what was sent and what it
answered, is kept beside the state of the server, and nothing else changes. A call on an engine that has
been disposed is no turn. Statements that are run one after another up to the first that fails are
answered with success but for the last.
-/
import SeriesCatalog.Inspector

namespace SeriesCatalog

/-- What a transport is asked for, and what it answers. -/
inductive Turn
  | ping (answer : Except CatalogError Unit)
  | execute (sql : String) (answer : Except CatalogError Unit)
  | query (sql : String) (answer : Except CatalogError Table)

variable {σ α : Type}

/-- The call with its turn kept behind those heard so far. -/
def Call.recorded (call : Call σ α) (turn : Except CatalogError α → Turn) : Call (σ × List Turn) α :=
  fun (s, heard) => ((call.on s).1, ((call.on s).2, heard ++ [turn (call.on s).1]))

/-- The transport whose every turn is kept. -/
def Transport.recorded (t : Transport σ) : Transport (σ × List Turn) where
  ping := t.ping.recorded .ping
  execute sql := (t.execute sql).recorded (.execute sql)
  query sql := (t.query sql).recorded (.query sql)

namespace Engine

/-- The engine whose every turn is kept. -/
def recorded (e : Engine σ) : Engine (σ × List Turn) :=
  ⟨e.target, e.dialect, e.transport.map Transport.recorded⟩

variable {e : Engine σ} {s : σ} {heard : List Turn}

@[simp] theorem isDisposed_recorded : e.recorded.isDisposed = e.isDisposed := by
  simp [recorded, isDisposed]

/-! ## Calls -/

/-- A call on an engine that has been disposed is refused, and nothing is sent. -/
theorem on_call_of_isDisposed (h : e.isDisposed = true) (f : Transport σ → Call σ α) :
    (e.call f).on s = (.error .disposed, s) := by
  rw [isDisposed, Option.isNone_iff_eq_none] at h
  rw [call, h]
  rfl

theorem exists_transport (h : e.isDisposed = false) : ∃ t, e.transport = some t :=
  Option.isSome_iff_exists.1 (by rw [← Option.not_isNone, ← isDisposed, h]; rfl)

theorem on_execute_recorded (h : e.isDisposed = false) (sql : String) :
    (e.recorded.execute sql).on (s, heard) =
      (((e.execute sql).on s).1, (((e.execute sql).on s).2, heard ++ [.execute sql ((e.execute sql).on s).1])) := by
  obtain ⟨t, ht⟩ := exists_transport h
  simp only [execute, call, recorded, ht, Option.map_some]
  rfl

theorem on_query_recorded (h : e.isDisposed = false) (sql : String) :
    (e.recorded.query sql).on (s, heard) =
      (((e.query sql).on s).1, (((e.query sql).on s).2, heard ++ [.query sql ((e.query sql).on s).1])) := by
  obtain ⟨t, ht⟩ := exists_transport h
  simp only [query, call, recorded, ht, Option.map_some]
  rfl

/-! ## Statements one after another -/

/-- What is said, and how it ends, where statements are run one after another up to the first that fails. -/
inductive RunUp : List String → List Turn → Except CatalogError Unit → Prop
  | all (l : List String) : RunUp l (l.map (.execute · (.ok ()))) (.ok ())
  | stopped (done : List String) (sql : String) (rest : List String) (error : CatalogError) :
      RunUp (done ++ sql :: rest) (done.map (.execute · (.ok ())) ++ [.execute sql (.error error)]) (.error error)

theorem RunUp.cons {l : List String} {turns : List Turn} {r : Except CatalogError Unit} (h : RunUp l turns r)
    (sql : String) : RunUp (sql :: l) (.execute sql (.ok ()) :: turns) r := by
  cases h with
  | all => exact .all (sql :: l)
  | stopped done sql' rest error => exact .stopped (sql :: done) sql' rest error

theorem on_forM_recorded (h : e.isDisposed = false) (l : List String) (s : σ) (heard : List Turn) :
    ∃ turns, RunUp l turns (Call.on (l.forM e.execute) s).1 ∧
      Call.on (l.forM e.recorded.execute) (s, heard) =
        ((Call.on (l.forM e.execute) s).1, ((Call.on (l.forM e.execute) s).2, heard ++ turns)) := by
  induction l generalizing s heard with
  | nil => exact ⟨[], .all [], by rw [List.append_nil]; rfl⟩
  | cons sql l ih =>
    rw [Call.on_forM_cons, Call.on_forM_cons, on_execute_recorded h]
    rcases (e.execute sql).on s with ⟨r | r, s'⟩
    · exact ⟨_, .stopped [] sql l r, rfl⟩
    · obtain ⟨turns, hturns, hrest⟩ := ih s' (heard ++ [.execute sql (.ok ())])
      refine ⟨_, hturns.cons sql, ?_⟩
      dsimp only
      rw [hrest, List.append_assoc, List.singleton_append]

end Engine

end SeriesCatalog
