/-
What a client does and what it is told. The history of a run holds its operations in order, each with its
result. An operation asks the server for at most one statement, whose names are checked first; what it
does to the client is told by its result: a session more, a session less, one statement counted, the
engine disposed, or nothing.
-/
import SeriesCatalog.Client

namespace SeriesCatalog.Client

variable {σ α : Type}

/-! ## Operations -/

namespace Operation

/-- The session that an operation names. -/
def session? : Operation → Option Nat
  | execute number _ | query number _ | closeSession number => some number
  | _ => none

/-- The session in which an operation runs a statement. -/
def runsIn? : Operation → Option Nat
  | execute number _ | query number _ => some number
  | _ => none

/-- The names that an operation puts into its statement, in the order in which they are checked. The schema that is
looked for among all schemas is in no statement. -/
def names : Operation → List String
  | tableNames schema => [schema]
  | columns table schema | hasTable table schema => [schema, table]
  | _ => []

/-- What an operation asks the server for, if its names are identifiers. -/
def request? : Operation → Option Sent
  | execute _ sql => some (.execute sql)
  | query _ sql => some (.query sql)
  | ping => some .ping
  | schemaNames | hasSchema _ => some (.query "SHOW DATABASES")
  | tableNames schema => some (.query ("SHOW DEVICES " ++ schema ++ ".**"))
  | columns table schema | hasTable table schema => some (.query ("SHOW TIMESERIES " ++ schema ++ "." ++ table ++ ".*"))
  | openSession | closeSession _ | dispose | constraints _ _ => none

/-- The operation needs an engine that has not been disposed. Disposing does not, nor does closing a session, and the
constraints of a table, of which there are none, are known without the server. -/
def needsEngine : Operation → Bool
  | dispose | closeSession _ | constraints _ _ => false
  | _ => true

theorem session?_of_runsIn? {op : Operation} {number : Nat} (h : op.runsIn? = some number) :
    op.session? = some number := by
  cases op with
  | execute | query => exact h
  | _ => cases h

end Operation

/-! ## Histories -/

/-- An operation and its result. -/
abbrev Event := Operation × Except Refusal Answer

/-- The operations of a run with their results. -/
def history (c : Client σ) (s : σ) (ops : List Operation) : List Event := ops.zip ((c.run s ops).map Prod.fst)

/-- The client and the state of the server at the end of a run. -/
def after (c : Client σ) (s : σ) (ops : List Operation) : Client σ × σ :=
  ((c.run s ops).getLast?.map Prod.snd).getD (c, s)

theorem history_cons (c : Client σ) (s : σ) (op : Operation) (ops : List Operation) :
    c.history s (op :: ops) = (op, (c.step op s).1) :: (c.step op s).2.1.history (c.step op s).2.2 ops := rfl

theorem after_cons (c : Client σ) (s : σ) (op : Operation) (ops : List Operation) :
    c.after s (op :: ops) = (c.step op s).2.1.after (c.step op s).2.2 ops := by
  unfold after
  rw [run, List.getLast?_cons]
  cases ((c.step op s).2.1.run (c.step op s).2.2 ops).getLast? <;> rfl

theorem history_append (c : Client σ) (s : σ) (ops more : List Operation) :
    c.history s (ops ++ more) = c.history s ops ++ (c.after s ops).1.history (c.after s ops).2 more := by
  induction ops generalizing c s with
  | nil => rfl
  | cons op ops ih => rw [List.cons_append, history_cons, history_cons, after_cons, ih, List.cons_append]

theorem map_fst_history (c : Client σ) (s : σ) (ops : List Operation) : (c.history s ops).map Prod.fst = ops := by
  induction ops generalizing c s with
  | nil => rfl
  | cons op ops ih => rw [history_cons, List.map_cons, ih]

/-- What comes first in a history is the history of the run so far. Next stands what the client that this has
led to does with the operation, and then the history of that client from there. -/
theorem eq_of_history_eq_append {c : Client σ} {s : σ} {ops : List Operation} {earlier later : List Event}
    {op : Operation} {r : Except Refusal Answer} (h : c.history s ops = earlier ++ (op, r) :: later) :
    c.history s (earlier.map Prod.fst) = earlier ∧
      ∃ c' s', c.after s (earlier.map Prod.fst) = (c', s') ∧ r = (c'.step op s').1 ∧
        later = (c'.step op s').2.1.history (c'.step op s').2.2 (later.map Prod.fst) := by
  have hops : ops = earlier.map Prod.fst ++ op :: later.map Prod.fst := by
    rw [← map_fst_history c s ops, h, List.map_append, List.map_cons]
  rw [hops, history_append, history_cons] at h
  have hlength : (c.history s (earlier.map Prod.fst)).length = earlier.length := by
    rw [← List.length_map Prod.fst, map_fst_history, List.length_map]
  obtain ⟨hearlier, htail⟩ := List.append_inj h hlength
  obtain ⟨hhead, hlater⟩ := List.cons.inj htail
  exact ⟨hearlier, _, _, rfl, (Prod.mk.inj hhead).2.symm, hlater.symm⟩

/-! ## One operation -/

/-- What an operation does to a client, by its result. -/
inductive Effect (c : Client σ) : Operation → Except Refusal Answer → Client σ → Prop
  | opened (h : c.engine.isDisposed = false) :
      Effect c .openSession (.ok (.opened c.sessions.length)) { c with sessions := c.sessions ++ [some {}] }
  | closed {number : Nat} (h : c.session? number ≠ none) :
      Effect c (.closeSession number) (.ok .closed) { c with sessions := c.sessions.set number none }
  | disposed : Effect c .dispose (.ok .disposed) { c with engine := c.engine.dispose }
  | counted {op : Operation} {number : Nat} {session : Session} {answer : Answer} (hop : op.runsIn? = some number)
      (h : c.session? number = some session) :
      Effect c op (.ok answer) { c with sessions := c.sessions.set number (some ⟨session.executed + 1⟩) }
  | answered {op : Operation} {answer : Answer} (hop : op.session? = none) (hopen : op ≠ .openSession)
      (hdispose : op ≠ .dispose) : Effect c op (.ok answer) c
  | missing {op : Operation} {number : Nat} (hop : op.session? = some number) (h : c.session? number = none) :
      Effect c op (.error .noSession) c
  | failed {op : Operation} {error : CatalogError} (hop : op.needsEngine = true)
      (h : ∀ number, op.session? = some number → c.session? number ≠ none) : Effect c op (.error (.failed error)) c

variable {c : Client σ}

theorem session?_eq_some_iff {number : Nat} {session : Session} :
    c.session? number = some session ↔ c.sessions[number]? = some (some session) := Option.join_eq_some_iff

theorem lt_of_session? {number : Nat} {session : Session} (h : c.session? number = some session) :
    number < c.sessions.length := (List.getElem?_eq_some_iff.1 (session?_eq_some_iff.1 h)).1

theorem set_session? {number : Nat} {session : Session} (h : c.session? number = some session) :
    c.sessions.set number (some session) = c.sessions := by
  obtain ⟨hlt, hget⟩ := List.getElem?_eq_some_iff.1 (session?_eq_some_iff.1 h)
  rw [← hget, List.set_getElem_self]

theorem effect_onEngine (op : Operation) (hop : op.session? = none) (hopen : op ≠ .openSession)
    (hneeds : op.needsEngine = true) (call : Call σ α) (answer : α → Answer) (s : σ) :
    Effect c op (c.onEngine call answer s).1 (c.onEngine call answer s).2.1 := by
  unfold onEngine
  rcases call.on s with ⟨error | a, s'⟩
  · exact .failed hneeds fun number hnumber => by rw [hop] at hnumber; cases hnumber
  · exact .answered hop hopen fun hd => by rw [hd] at hneeds; cases hneeds

theorem effect_onSession (op : Operation) {number : Nat} (hop : op.runsIn? = some number)
    (hsession : op.session? = some number) (hneeds : op.needsEngine = true) (call : Call σ α) (answer : α → Answer)
    (s : σ) :
    Effect c op (c.onSession number call answer s).1 (c.onSession number call answer s).2.1 := by
  unfold onSession
  cases h : c.session? number with
  | none => exact .missing hsession h
  | some session =>
    dsimp only
    rcases call.on s with ⟨error | a, s'⟩
    · have hkept : { c with sessions := c.sessions.set number (some session) } = c := by rw [set_session? h]
      simp only [Session.after, hkept]
      exact .failed hneeds fun number' hnumber => by
        rw [hsession, Option.some_inj] at hnumber
        rw [← hnumber, h]
        exact Option.some_ne_none _
    · exact .counted hop h

/-- Every operation has its effect. -/
theorem effect_step (c : Client σ) (op : Operation) (s : σ) : Effect c op (c.step op s).1 (c.step op s).2.1 := by
  cases op with
  | openSession =>
    rw [step, Session.start]
    cases h : c.engine.isDisposed with
    | true => exact .failed rfl nofun
    | false => exact .opened h
  | execute number sql => exact effect_onSession (.execute number sql) rfl rfl rfl _ _ s
  | query number sql => exact effect_onSession (.query number sql) rfl rfl rfl _ _ s
  | closeSession number =>
    rw [step]
    cases h : c.session? number with
    | none => exact .missing rfl h
    | some session => exact .closed (by rw [h]; exact Option.some_ne_none _)
  | dispose => exact .disposed
  | constraints table schema => exact .answered rfl nofun nofun
  | ping => exact effect_onEngine .ping rfl nofun rfl _ _ s
  | schemaNames => exact effect_onEngine .schemaNames rfl nofun rfl _ _ s
  | tableNames schema => exact effect_onEngine (.tableNames schema) rfl nofun rfl _ _ s
  | columns table schema => exact effect_onEngine (.columns table schema) rfl nofun rfl _ _ s
  | hasSchema schema => exact effect_onEngine (.hasSchema schema) rfl nofun rfl _ _ s
  | hasTable table schema => exact effect_onEngine (.hasTable table schema) rfl nofun rfl _ _ s

variable {c' : Client σ} {op : Operation} {r : Except Refusal Answer}

/-- Only disposing touches the engine. -/
theorem Effect.isDisposed (h : Effect c op r c') :
    c'.engine.isDisposed = true ↔ c.engine.isDisposed = true ∨ op = .dispose := by
  cases h with
  | disposed => simp [Engine.isDisposed]
  | opened | closed => simp
  | answered hop hopen hdispose => simp [hdispose]
  | counted hop | missing hop | failed hop =>
    have hne : op ≠ .dispose := fun he => by rw [he] at hop; cases hop
    simp [hne]

/-- Want of a session is reported exactly by an operation whose session is not open. -/
theorem Effect.noSession_iff (h : Effect c op r c') :
    r = .error .noSession ↔ ∃ number, op.session? = some number ∧ c.session? number = none := by
  cases h with
  | missing hop h => exact iff_of_true rfl ⟨_, hop, h⟩
  | opened | disposed => exact iff_of_false nofun fun ⟨_, hop, _⟩ => by cases hop
  | closed h =>
    refine iff_of_false nofun fun ⟨number, hop, hnone⟩ => h ?_
    rwa [Option.some_inj.1 hop]
  | counted hop h =>
    refine iff_of_false nofun fun ⟨number, hop', hnone⟩ => ?_
    rw [Operation.session?_of_runsIn? hop, Option.some_inj] at hop'
    rw [← hop', h] at hnone
    cases hnone
  | answered hop =>
    refine iff_of_false nofun fun ⟨number, hop', _⟩ => ?_
    rw [hop] at hop'
    cases hop'
  | failed hop h => exact iff_of_false nofun fun ⟨number, hop', hnone⟩ => h number hop' hnone

end SeriesCatalog.Client
