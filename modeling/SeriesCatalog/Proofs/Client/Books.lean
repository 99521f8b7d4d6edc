/-
The books of a client agree with its history. The server was asked exactly for the statements of the calls
before the first disposal whose names are identifiers, once each and in their order; every open session
has counted exactly the statements that were run in it with success; and the engine is disposed from the
first disposal on. One operation keeps the books, by its effect, and a run keeps them by induction.
-/
import SeriesCatalog.Proofs.Client.Disposal
import SeriesCatalog.Proofs.Engine.Logged
import Mathlib.Data.List.TakeWhile

namespace SeriesCatalog.Client

variable {σ α : Type} {c c' : Client σ} {op : Operation} {r : Except Refusal Answer} {events : List Event}
  {number : Nat}

/-! ## What a history says -/

/-- What the server is asked for by an operation, unless one of its names is no identifier. -/
def Operation.statement? (op : Operation) : Option Sent :=
  if op.names.all Dialect.isIdentifier then op.request? else none

/-- The engine was disposed in the course of the events. -/
def Disposed (events : List Event) : Prop := ∃ answer, (.dispose, answer) ∈ events

/-- The session was opened in the course of the events and not closed afterwards. -/
def IsOpen (events : List Event) (number : Nat) : Prop :=
  ∃ earlier later, events = earlier ++ (.openSession, .ok (.opened number)) :: later ∧
    ∀ answer, (.closeSession number, answer) ∉ later

/-- The event is a statement that was run in the session with success. -/
def completes (number : Nat) (event : Event) : Bool := event.1.runsIn? == some number && event.2.isOk

/-- What the server is asked for by an event before disposal. An operation whose session is not open asks for
nothing. -/
def asked? : Event → Option Sent
  | (_, .error .noSession) => none
  | (op, _) => op.statement?

/-- What the server is asked for in the course of the events, in order: what the events before the first disposal ask
for. -/
def requests (events : List Event) : List Sent := (events.takeWhile (·.1 ≠ .dispose)).filterMap asked?

example : requests [(.openSession, .ok (.opened 0)), (.tableNames "a b", .error (.failed (.invalidIdentifier "a b"))),
    (.execute 0 "drop database root.a", .error (.failed (.timeout 50))), (.execute 1 "show devices", .error .noSession),
    (.ping, .ok .done), (.dispose, .ok .disposed), (.ping, .error (.failed .disposed))] =
      [.execute "drop database root.a", .ping] := by decide

theorem disposed_concat : Disposed (events ++ [(op, r)]) ↔ Disposed events ∨ op = .dispose := by
  simp only [Disposed, List.mem_append, List.mem_singleton, Prod.mk.injEq, exists_or]
  exact or_congr_right ⟨fun ⟨_, h, _⟩ => h.symm, fun h => ⟨r, h.symm, rfl⟩⟩

theorem isOpen_concat :
    IsOpen (events ++ [(op, r)]) number ↔
      (op = .openSession ∧ r = .ok (.opened number)) ∨ IsOpen events number ∧ op ≠ .closeSession number := by
  constructor
  · rintro ⟨earlier, later, hevents, hclosed⟩
    rcases List.eq_nil_or_concat later with rfl | ⟨later, last, rfl⟩
    · obtain ⟨-, hlast⟩ := List.append_inj' hevents rfl
      exact .inl (by simpa using hlast)
    · rw [List.concat_eq_append, ← List.cons_append, ← List.append_assoc] at hevents
      obtain ⟨hbefore, hlast⟩ := List.append_inj' hevents rfl
      obtain rfl := List.singleton_inj.1 hlast
      refine .inr ⟨⟨earlier, later, hbefore, fun answer hin => hclosed answer ?_⟩, ?_⟩
      · simp [hin]
      · rintro rfl
        exact hclosed r (by simp)
  · rintro (⟨rfl, rfl⟩ | ⟨⟨earlier, later, rfl, hclosed⟩, hop⟩)
    · exact ⟨events, [], rfl, nofun⟩
    · refine ⟨earlier, later ++ [(op, r)], by simp, fun answer hin => ?_⟩
      rcases List.mem_append.1 hin with hin | hin
      · exact hclosed answer hin
      · exact hop (Prod.mk.inj (List.mem_singleton.1 hin)).1.symm

theorem requests_concat_of_disposed (h : Disposed events) : requests (events ++ [(op, r)]) = requests events := by
  obtain ⟨answer, hin⟩ := h
  have hstops : (events.takeWhile (·.1 ≠ .dispose)).length ≠ events.length := by
    intro hlength
    have hall := List.takeWhile_eq_self_iff.1 ((List.takeWhile_prefix _).eq_of_length hlength)
    simpa using hall _ hin
  rw [requests, List.takeWhile_append, if_neg hstops, requests]

theorem requests_concat_of_not_disposed (h : ¬ Disposed events) :
    requests (events ++ [(op, r)]) = requests events ++ (asked? (op, r)).toList := by
  have hall : ∀ event ∈ events, decide (event.1 ≠ .dispose) = true := by
    rintro ⟨op', answer⟩ hin
    exact decide_eq_true fun he => h ⟨answer, he ▸ hin⟩
  rw [requests, requests, List.takeWhile_append_of_pos hall, List.takeWhile_eq_self_iff.2 hall, List.filterMap_append]
  congr 1
  by_cases hop : op = .dispose
  · subst hop
    cases r with
    | ok answer => rfl
    | error refusal => cases refusal <;> rfl
  · simp only [List.takeWhile_cons, hop, ne_eq, not_false_eq_true, decide_true, if_true, List.takeWhile_nil,
      List.filterMap_cons, List.filterMap_nil]
    cases asked? (op, r) <;> rfl

theorem countP_completes_concat :
    (events ++ [(op, r)]).countP (completes number) =
      events.countP (completes number) + if completes number (op, r) then 1 else 0 := by
  rw [List.countP_append, List.countP_singleton]

/-! ## One operation -/

/-- What becomes of one session: it is opened, closed, counts a statement more, or stays as it was. -/
inductive Change (c : Client σ) (number : Nat) : Operation → Except Refusal Answer → Option Session → Prop
  | opened (h : number = c.sessions.length) : Change c number .openSession (.ok (.opened number)) (some {})
  | closed {r : Except Refusal Answer} : Change c number (.closeSession number) r none
  | counted {op : Operation} {r : Except Refusal Answer} {session : Session} (hopen : c.session? number = some session)
      (h : completes number (op, r) = true) : Change c number op r (some ⟨session.executed + 1⟩)
  | kept {op : Operation} {r : Except Refusal Answer} (hopened : ¬ (op = .openSession ∧ r = .ok (.opened number)))
      (hclosed : op ≠ .closeSession number) (h : completes number (op, r) = false) :
      Change c number op r (c.session? number)

theorem session?_set_self {session : Option Session} (h : c.session? number ≠ none) :
    ({ c with sessions := c.sessions.set number session } : Client σ).session? number = session := by
  obtain ⟨old, hold⟩ := Option.ne_none_iff_exists'.1 h
  unfold session?
  rw [List.getElem?_set_self (lt_of_session? hold)]
  rfl

theorem session?_set_of_ne {place : Nat} {session : Option Session} (h : place ≠ number) :
    ({ c with sessions := c.sessions.set place session } : Client σ).session? number = c.session? number := by
  unfold session?
  rw [List.getElem?_set_ne h]

theorem session?_append_of_ne {session : Option Session} (h : number ≠ c.sessions.length) :
    ({ c with sessions := c.sessions ++ [session] } : Client σ).session? number = c.session? number := by
  unfold session?
  rcases lt_or_gt_of_ne h with hlt | hgt
  · rw [List.getElem?_append_left hlt]
  · rw [List.getElem?_eq_none (by rw [List.length_append]; exact hgt), List.getElem?_eq_none hgt.le]

theorem completes_error {refusal : Refusal} : completes number (op, .error refusal) = false := by
  simp [completes, Except.isOk, Except.toBool]

theorem completes_ok {answer : Answer} : completes number (op, .ok answer) = (op.runsIn? == some number) := by
  simp [completes, Except.isOk, Except.toBool]

theorem Effect.change (h : Effect c op r c') (number : Nat) : Change c number op r (c'.session? number) := by
  cases h with
  | opened =>
    by_cases hnew : number = c.sessions.length
    · have hsession : ({ c with sessions := c.sessions ++ [some {}] } : Client σ).session? number = some {} := by
        simp [session?, hnew]
      rw [hsession, ← hnew]
      exact .opened hnew
    · rw [session?_append_of_ne hnew]
      exact .kept (fun ⟨_, hr⟩ => hnew (by cases hr; rfl)) nofun rfl
  | @closed place hopen =>
    by_cases hplace : place = number
    · subst hplace
      rw [session?_set_self hopen]
      exact .closed
    · rw [session?_set_of_ne hplace]
      exact .kept nofun (fun he => hplace (by cases he; rfl)) rfl
  | disposed => exact .kept nofun nofun rfl
  | @counted _ place session answer hop hopen =>
    by_cases hplace : place = number
    · subst hplace
      rw [session?_set_self (by rw [hopen]; exact Option.some_ne_none _)]
      exact .counted hopen (by rw [completes_ok, hop, beq_self_eq_true])
    · have hnot : completes number (op, .ok answer) = false := by
        rw [completes_ok, hop, Option.some_beq_some, beq_eq_false_iff_ne]
        exact hplace
      rw [session?_set_of_ne hplace]
      exact .kept (fun ⟨he, _⟩ => by rw [he] at hop; cases hop) (fun he => by rw [he] at hop; cases hop) hnot
  | answered hop hopen hdispose =>
    have hnot : op.runsIn? = none := by
      cases hruns : op.runsIn? with
      | none => rfl
      | some place =>
        rw [Operation.session?_of_runsIn? hruns] at hop
        cases hop
    exact .kept (fun ⟨he, _⟩ => hopen he) (fun he => by rw [he] at hop; cases hop) (by rw [completes_ok, hnot]; rfl)
  | missing hop hnone =>
    by_cases he : op = .closeSession number
    · subst he
      obtain rfl := Option.some_inj.1 hop
      rw [hnone]
      exact .closed
    · exact .kept nofun he completes_error
  | failed hop hopen => exact .kept nofun (fun he => by rw [he] at hop; cases hop) completes_error

theorem Effect.length_le (h : Effect c op r c') : c.sessions.length ≤ c'.sessions.length := by
  cases h <;> simp

/-- A statement that is run with success is run in an open session. -/
theorem Effect.lt_of_completes (h : Effect c op r c') (hdone : completes number (op, r) = true) :
    number < c.sessions.length := by
  have hchange := h.change number
  generalize c'.session? number = o at hchange
  cases hchange with
  | opened | closed => cases hdone
  | counted hopen => exact lt_of_session? hopen
  | kept hopened hclosed hnot =>
    rw [hnot] at hdone
    cases hdone

/-! ## Sessions and the engine -/

/-- Sessions and engine are as the history says. Numbers that were not given yet have counted nothing. -/
structure Books (events : List Event) (c : Client σ) : Prop where
  executed : ∀ number session, c.session? number = some session → session.executed = events.countP (completes number)
  sessions : ∀ number, c.session? number ≠ none ↔ IsOpen events number
  disposed : c.engine.isDisposed = true ↔ Disposed events
  unopened : ∀ number, c.sessions.length ≤ number → events.countP (completes number) = 0

theorem Books.concat (h : Books events c) (heffect : Effect c op r c') : Books (events ++ [(op, r)]) c' where
  executed number session hsession := by
    have hchange := heffect.change number
    rw [hsession] at hchange
    rw [countP_completes_concat]
    generalize ho : some session = o at hchange
    cases hchange with
    | opened hnew =>
      cases ho
      rw [h.unopened number hnew.ge]
      rfl
    | closed => cases ho
    | counted hopen hdone =>
      cases ho
      rw [if_pos hdone, h.executed number _ hopen]
    | kept hopened hclosed hnot =>
      rw [hnot, h.executed number session ho.symm]
      rfl
  sessions number := by
    have hchange := heffect.change number
    generalize c'.session? number = o at hchange
    rw [isOpen_concat]
    cases hchange with
    | opened hnew => simp
    | closed => simp
    | counted hopen hdone =>
      have hclosed : op ≠ .closeSession number := fun he => by rw [he] at hdone; cases hdone
      have hwas : IsOpen events number := (h.sessions number).1 (by rw [hopen]; exact Option.some_ne_none _)
      exact iff_of_true (Option.some_ne_none _) (.inr ⟨hwas, hclosed⟩)
    | kept hopened hclosed hnot =>
      rw [h.sessions number]
      exact ⟨fun hwas => .inr ⟨hwas, hclosed⟩, fun hor => (hor.resolve_left hopened).1⟩
  disposed := by
    rw [heffect.isDisposed, h.disposed, disposed_concat]
  unopened number hlength := by
    have hbefore : c.sessions.length ≤ number := heffect.length_le.trans hlength
    have hnot : completes number (op, r) = false := by
      rw [Bool.eq_false_iff]
      exact fun hdone => absurd (heffect.lt_of_completes hdone) (not_lt.2 hbefore)
    rw [countP_completes_concat, h.unopened number hbefore, hnot]
    rfl

theorem Books.noSession_iff (h : Books events c) {s : σ} :
    (c.step op s).1 = .error .noSession ↔ ∃ number, op.session? = some number ∧ ¬ IsOpen events number := by
  simp only [(effect_step c op s).noSession_iff, ← h.sessions, ne_eq, not_not]

theorem Books.exists_error (h : Books events c) {s : σ} (hdisposed : Disposed events) (hop : op.needsEngine = true) :
    ∃ refusal, (c.step op s).1 = .error refusal := by
  by_cases hopen : (c.step op s).1 = .error .noSession
  · exact ⟨_, hopen⟩
  · exact ⟨_, result_of_isDisposed (h.disposed.2 hdisposed) hop hopen⟩

/-! ## The log -/

/-- The client whose requests are kept in a log. -/
def logged (c : Client σ) : Client (σ × List Sent) := ⟨c.engine.logged, c.sessions⟩

/-- What the client sends for an operation whose session is open. -/
def sends (c : Client σ) (op : Operation) : List Sent := if c.engine.isDisposed then [] else op.statement?.toList

/-- What an event adds to the log of the client. -/
def entries (c : Client σ) (event : Event) : List Sent := if c.engine.isDisposed then [] else (asked? event).toList

theorem entries_of_request? (h : op.request? = none) : c.entries (op, r) = [] := by
  have hstatement : op.statement? = none := by rw [Operation.statement?, h, ite_self]
  have hasked : asked? (op, r) = none := by
    rcases r with (_ | error) | answer
    · rfl
    · exact hstatement
    · exact hstatement
  rw [entries, hasked]
  exact ite_self []

theorem sends_eq_ite {sql : String} (h : op.request? = some (.query sql)) :
    c.sends op = if c.engine.isDisposed || !op.names.all Dialect.isIdentifier then [] else [.query sql] := by
  rw [sends, Operation.statement?, h]
  cases c.engine.isDisposed <;> cases op.names.all Dialect.isIdentifier <;> rfl

variable {call : Call σ α} {kept : Call (σ × List Sent) α}

theorem onEngine_logged (op : Operation) (h : call.Logs kept (c.sends op)) (answer : α → Answer)
    (s : σ) (log : List Sent) :
    c.logged.onEngine kept answer (s, log) =
      ((c.onEngine call answer s).1, (c.onEngine call answer s).2.1.logged,
        ((c.onEngine call answer s).2.2, log ++ c.entries (op, (c.onEngine call answer s).1))) := by
  rw [onEngine, onEngine, h]
  rcases call.on s with ⟨error | a, s'⟩ <;> rfl

theorem onEngine_logged_of_ask (op : Operation) {sql : String} {read : Table → α}
    (hrequest : op.request? = some (.query sql)) (hcall : call = c.engine.ask (Dialect.built op.names sql) read)
    (hkept : kept = c.engine.logged.ask (Dialect.built op.names sql) read) (answer : α → Answer)
    (s : σ) (log : List Sent) :
    c.logged.onEngine kept answer (s, log) =
      ((c.onEngine call answer s).1, (c.onEngine call answer s).2.1.logged,
        ((c.onEngine call answer s).2.2, log ++ c.entries (op, (c.onEngine call answer s).1))) := by
  subst hcall hkept
  refine onEngine_logged op ?_ answer s log
  rw [sends_eq_ite hrequest]
  exact Engine.logs_ask op.names sql read

theorem onSession_logged (op : Operation) (h : call.Logs kept (c.sends op)) (answer : α → Answer)
    (s : σ) (log : List Sent) :
    c.logged.onSession number kept answer (s, log) =
      ((c.onSession number call answer s).1, (c.onSession number call answer s).2.1.logged,
        ((c.onSession number call answer s).2.2, log ++ c.entries (op, (c.onSession number call answer s).1))) := by
  have hsession : c.logged.session? number = c.session? number := rfl
  unfold onSession
  rw [hsession]
  cases c.session? number with
  | none => simp [entries, asked?]
  | some session =>
    dsimp only
    rw [h]
    rcases call.on s with ⟨error | a, s'⟩ <;> rfl

/-- The log changes no operation. What the operation asks for is added to it, unless the engine has been disposed. -/
theorem step_logged (c : Client σ) (op : Operation) (s : σ) (log : List Sent) :
    c.logged.step op (s, log) =
      ((c.step op s).1, (c.step op s).2.1.logged, ((c.step op s).2.2, log ++ c.entries (op, (c.step op s).1))) := by
  cases op with
  | execute number sql => exact onSession_logged (.execute number sql) (Engine.logs_execute sql) _ s log
  | query number sql => exact onSession_logged (.query number sql) (Engine.logs_query sql) _ s log
  | ping => exact onEngine_logged .ping Engine.logs_ping _ s log
  | schemaNames =>
    exact onEngine_logged_of_ask .schemaNames rfl Engine.schemaNames_eq_ask Engine.schemaNames_eq_ask _ s log
  | tableNames schema =>
    exact onEngine_logged_of_ask (.tableNames schema) rfl (Engine.tableNames_eq_ask _) (Engine.tableNames_eq_ask _)
      _ s log
  | columns table schema =>
    exact onEngine_logged_of_ask (.columns table schema) rfl (Engine.columns_eq_ask _ _) (Engine.columns_eq_ask _ _)
      _ s log
  | hasSchema schema =>
    exact onEngine_logged_of_ask (.hasSchema schema) rfl (Engine.hasSchema_eq_ask _) (Engine.hasSchema_eq_ask _)
      _ s log
  | hasTable table schema =>
    exact onEngine_logged_of_ask (.hasTable table schema) rfl (Engine.hasTable_eq_ask _ _) (Engine.hasTable_eq_ask _ _)
      _ s log
  | openSession =>
    rw [entries_of_request? rfl, step, step, Session.start, Session.start, List.append_nil]
    have hdisposed : c.logged.engine.isDisposed = c.engine.isDisposed := Engine.isDisposed_logged
    rw [hdisposed]
    cases c.engine.isDisposed <;> rfl
  | closeSession number =>
    have hsession : c.logged.session? number = c.session? number := rfl
    rw [entries_of_request? rfl, step, step, hsession, List.append_nil]
    cases c.session? number <;> rfl
  | dispose =>
    rw [entries_of_request? rfl, List.append_nil]
    rfl
  | constraints table schema =>
    rw [entries_of_request? rfl, List.append_nil]
    rfl

/-! ## Runs -/

/-- The log of a client whose books are kept grows by what its history asks for. -/
theorem requests_concat (h : Books events c) :
    requests (events ++ [(op, r)]) = requests events ++ c.entries (op, r) := by
  rw [entries]
  split
  next hdisposed => rw [requests_concat_of_disposed (h.disposed.1 hdisposed), List.append_nil]
  next hdisposed => exact requests_concat_of_not_disposed fun hevents => hdisposed (h.disposed.2 hevents)

theorem Books.run (h : Books events c) (s : σ) (ops : List Operation) :
    Books (events ++ c.history s ops) (c.after s ops).1 ∧
      c.logged.history (s, requests events) ops = c.history s ops ∧
      c.logged.after (s, requests events) ops =
        ((c.after s ops).1.logged, ((c.after s ops).2, requests (events ++ c.history s ops))) := by
  induction ops generalizing events c s with
  | nil =>
    have hevents : events ++ c.history s [] = events := List.append_nil events
    rw [hevents]
    exact ⟨h, rfl, rfl⟩
  | cons op ops ih =>
    have hrest := ih (h.concat (effect_step c op s)) (c.step op s).2.2
    rw [requests_concat h, List.append_assoc, List.singleton_append, ← history_cons] at hrest
    obtain ⟨hbooks, hhistory, hafter⟩ := hrest
    rw [after_cons, history_cons, after_cons, step_logged]
    refine ⟨hbooks, ?_, hafter⟩
    rw [history_cons c.logged, step_logged, hhistory]

theorem books_nil (t : Transport σ) (target dialect : String) :
    Books [] (⟨⟨target, dialect, some t⟩, []⟩ : Client σ) where
  executed _ _ h := by cases h
  sessions _ := iff_of_false (fun h => h rfl) fun ⟨_, _, h, _⟩ => by simp at h
  disposed := iff_of_false nofun fun ⟨_, h⟩ => by cases h
  unopened _ _ := rfl

/-- The books of every run over any server. The server is asked for exactly what the events before the first disposal
ask for, in their order; every open session has counted the statements that succeeded in it; want of a session is
reported exactly where the session is not open; and what needs the engine fails behind a disposal. -/
theorem books_of_run (t : Transport σ) (target dialect : String) (s : σ) (ops : List Operation) :
    let start : Client σ := ⟨⟨target, dialect, some t⟩, []⟩
    let kept : Client (σ × List Sent) := ⟨⟨target, dialect, some t.logged⟩, []⟩
    let events := start.history s ops
    let (final, _, log) := kept.after (s, []) ops
    kept.history (s, []) ops = events ∧ log = requests events ∧
      (∀ number, (final.session? number ≠ none ↔ IsOpen events number) ∧
        ∀ session, final.session? number = some session → session.executed = events.countP (completes number)) ∧
      (final.engine.isDisposed = true ↔ Disposed events) ∧
      ∀ earlier op result later, events = earlier ++ (op, result) :: later →
        (result = .error .noSession ↔ ∃ number, op.session? = some number ∧ ¬ IsOpen earlier number) ∧
        (Disposed earlier → op.needsEngine = true → ∃ refusal, result = .error refusal) := by
  intro start kept events
  have hstart : Books [] start := books_nil t target dialect
  obtain ⟨hbooks, hhistory, hafter⟩ := hstart.run s ops
  rw [List.nil_append] at hbooks hafter
  have hlog : kept.after (s, []) ops = ((start.after s ops).1.logged, ((start.after s ops).2, requests events)) :=
    hafter
  rw [hlog]
  refine ⟨hhistory, rfl, fun number => ⟨hbooks.sessions number, hbooks.executed number⟩, ?_, ?_⟩
  · rw [← hbooks.disposed]
    exact iff_of_eq (congrArg (· = true) Engine.isDisposed_logged)
  · intro earlier op result later hsplit
    obtain ⟨hearlier, c', s', hafter, rfl, -⟩ := eq_of_history_eq_append hsplit
    have hbefore : Books earlier c' := by
      have hrun := (hstart.run s (earlier.map Prod.fst)).1
      rwa [hearlier, hafter] at hrun
    exact ⟨hbefore.noSession_iff, hbefore.exists_error⟩

end SeriesCatalog.Client
