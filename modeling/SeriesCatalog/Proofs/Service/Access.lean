/-
Who gets at the tree. A request changes it only as an order: it is posted to the place for texts that
are run for their effect, it carries the credentials of the service, and its body is complete and holds
the text of a statement that is no listing. The tree is then the one that the statement makes of it.
Which place it is posted to is read off its target, which may name a server before the path and carry a
query or a fragment behind it. A request that asks for nothing the service has, or for a place of the
REST interface without the credentials, is turned away before its body is read and before the tree is
looked at, so that the reply tells nothing about either.
-/
import SeriesCatalog.Proofs.Service.Connected

namespace SeriesCatalog.Service

open Http

variable {config : Service} {r : Request} {tree : Tree} {header user password encoded : List Char} {sql : String}
variable {e : Endpoint} {fault : Fault} {st : Statement} {forQueries : Bool} {path : String}

/-! ## Credentials -/

/-- What a header holds behind the name of the scheme, or all of it if the name is missing. -/
inductive Holds (header : List Char) : List Char → Prop
  | named {encoded : List Char} (h : header = "Basic ".toList ++ encoded) : Holds header encoded
  | bare (h : ¬ "Basic ".toList <+: header) : Holds header header

theorem getD_isPrefixOf?_eq_iff :
    ("Basic ".toList.isPrefixOf? header).getD header = encoded ↔ Holds header encoded := by
  cases hp : "Basic ".toList.isPrefixOf? header with
  | some rest =>
    have hrest := List.isPrefixOf?_eq_some_iff_append_eq.1 hp
    constructor
    · rintro rfl
      exact .named hrest.symm
    · rintro (h | h)
      · exact List.append_cancel_left (hrest.trans h)
      · exact absurd ⟨rest, hrest⟩ h
  | none =>
    have hno := Text.isPrefixOf?_eq_none_iff.1 hp
    constructor
    · rintro rfl
      exact .bare hno
    · rintro (h | -)
      · exact absurd ⟨encoded, h.symm⟩ hno
      · rfl

/-- A header gives a user and a password: as the Base64 of a text whose first colon stands between them. -/
def Gives (header user password : List Char) : Prop :=
  ∃ encoded bytes, Holds header encoded ∧ Base64.decode? (Text.trim encoded) = some bytes ∧
    Utf8.decode bytes = .ok (user ++ ':' :: password) ∧ ':' ∉ user

theorem credentials?_eq_some_iff : credentials? header = some (user, password) ↔ Gives header user password := by
  have hsuccess : ∀ (x : Except Utf8.Fault (List Char)) text, x.toOption = some text ↔ x = .ok text := by
    intro x text
    cases x <;> simp [Except.toOption]
  simp only [credentials?, Option.bind_eq_bind, Option.bind_eq_some_iff, hsuccess,
    Text.cutFirst_singleton_eq_some_iff, Gives, ← getD_isPrefixOf?_eq_iff]
  constructor
  · rintro ⟨bytes, hbytes, text, htext, rfl, huser⟩
    exact ⟨_, bytes, rfl, hbytes, htext, huser⟩
  · rintro ⟨-, bytes, rfl, hbytes, htext, huser⟩
    exact ⟨bytes, hbytes, _, htext, rfl, huser⟩

/-- The request carries the credentials of the service, in a header that can be read. -/
def Carries (config : Service) (r : Request) : Prop :=
  ∃ header, r.authorization = some header ∧ isLegible (headerText header) = true ∧
    Gives (headerText header) config.user.toList config.password.toList

theorem authorize_eq_ok_iff : config.authorize r = .ok () ↔ config.Carries r := by
  unfold authorize Carries
  cases r.authorization with
  | none => exact iff_of_false nofun nofun
  | some header =>
    simp only [Option.some.injEq, exists_eq_left', ← credentials?_eq_some_iff]
    by_cases hlegible : isLegible (headerText header) = true
    · simp only [hlegible, Bool.not_true, Bool.false_eq_true, if_false, true_and]
      cases credentials? (headerText header) with
      | none => exact iff_of_false nofun nofun
      | some given =>
        obtain ⟨user, password⟩ := given
        simp only [Option.some.injEq, Prod.mk.injEq]
        split
        · rename_i hwrong
          exact iff_of_false nofun fun h => hwrong.elim (absurd h.1) (absurd h.2)
        · rename_i hright
          exact iff_of_true rfl (by simpa using hright)
    · rw [if_pos (by simpa using hlegible)]
      exact iff_of_false nofun fun h => hlegible h.1

/-! ## What is let in -/

theorem ofPath?_eq_some_iff : Endpoint.ofPath? path = some e ↔ path = e.path := by
  constructor
  · intro h
    unfold Endpoint.ofPath? at h
    have hfound := List.find?_some h
    exact (beq_iff_eq.1 hfound).symm
  · rintro rfl
    cases e <;> decide

theorem route_eq_ok_iff : route path r = .ok e ↔ path = e.path ∧ r.method = e.method := by
  unfold route
  rw [← ofPath?_eq_some_iff]
  cases Endpoint.ofPath? path with
  | none => simp
  | some found =>
    simp only [Option.some.injEq]
    constructor
    · intro h
      split at h
      · rename_i hmethod
        cases h
        exact ⟨rfl, hmethod⟩
      · cases h
    · rintro ⟨rfl, hmethod⟩
      rw [if_pos hmethod]

theorem statementText_eq_ok_iff :
    statementText r = .ok sql ↔ r.complete = true ∧ Wire.statement? r.body = some sql := by
  unfold statementText
  cases r.complete <;> cases Wire.statement? r.body <;> simp

/-- A statement is taken from a request only behind its route and its credentials. -/
theorem accept_eq_ok_some_iff : config.accept path r = .ok (some (forQueries, sql)) ↔
    route path r = .ok (endpointFor forQueries) ∧ config.authorize r = .ok () ∧ statementText r = .ok sql := by
  constructor
  · intro h
    obtain ⟨e, hroute, h⟩ := bind_eq_ok_iff.1 h
    cases e with
    | ping => cases h
    | query | nonQuery =>
      obtain ⟨_, hauth, h⟩ := bind_eq_ok_iff.1 h
      obtain ⟨text, htext, h⟩ := bind_eq_ok_iff.1 h
      cases h
      exact ⟨hroute, hauth, htext⟩
  · rintro ⟨hroute, hauth, htext⟩
    obtain ⟨hcomplete, hbody⟩ := statementText_eq_ok_iff.1 htext
    exact accept_of_authorized hroute hauth hcomplete hbody

/-! ## Orders -/

/-- The request orders, with the credentials of the service, that a statement be run for its effect. -/
structure Orders (config : Service) (r : Request) (st : Statement) : Prop where
  path : pathOf r.target = .ok "/rest/v1/nonQuery"
  method : r.method = "POST"
  carries : config.Carries r
  complete : r.complete = true
  statement : ∃ sql, Wire.statement? r.body = some sql ∧ Statement.parse sql = .ok st
  isEffect : st.isQuery = false

theorem Orders.respond_snd (h : config.Orders r st) (tree : Tree) : (config.respond r tree).2 = (tree.apply st).2 := by
  obtain ⟨sql, hbody, hparse⟩ := h.statement
  have haccept : config.accept "/rest/v1/nonQuery" r = .ok (some (false, sql)) :=
    accept_eq_ok_some_iff.2 ⟨route_eq_ok_iff.2 ⟨rfl, h.method⟩, authorize_eq_ok_iff.2 h.carries,
      statementText_eq_ok_iff.2 ⟨h.complete, hbody⟩⟩
  rw [respond_of_accept h.path haccept, runAt_of_parse_ok hparse, if_pos h.isEffect]

theorem respond_of_ping (hpath : pathOf r.target = .ok path) (h : config.accept path r = .ok none) :
    config.respond r tree = (jsonReply 200 Wire.Status.success.body, tree) := by
  rw [respond, hpath]
  dsimp only
  rw [h]

/-- A text that is run for its effect is an order, unless it is turned down or a listing. -/
theorem exists_orders_of_accept (hpath : pathOf r.target = .ok path)
    (haccept : config.accept path r = .ok (some (false, sql))) (h : (config.respond r tree).2 ≠ tree) :
    ∃ st, config.Orders r st := by
  obtain ⟨hroute, hauth, htext⟩ := accept_eq_ok_some_iff.1 haccept
  obtain ⟨rfl, hmethod⟩ := route_eq_ok_iff.1 hroute
  obtain ⟨hcomplete, hbody⟩ := statementText_eq_ok_iff.1 htext
  rw [respond_of_accept hpath haccept] at h
  cases hparse : Statement.parse sql with
  | error fault =>
    rw [runAt_of_parse_error hparse] at h
    exact absurd rfl h
  | ok st =>
    cases hquery : st.isQuery with
    | true =>
      rw [runAt_of_parse_ok hparse, hquery] at h
      exact absurd rfl h
    | false =>
      exact ⟨st, hpath, hmethod, authorize_eq_ok_iff.1 hauth, hcomplete, ⟨sql, hbody, hparse⟩, hquery⟩

/-- What is no order leaves the tree alone. -/
theorem exists_orders_of_changed (h : (config.respond r tree).2 ≠ tree) : ∃ st, config.Orders r st := by
  cases hpath : pathOf r.target with
  | error fault =>
    rw [respond, hpath] at h
    exact absurd rfl h
  | ok path =>
    cases haccept : config.accept path r with
    | error fault =>
      rw [respond_of_fault hpath haccept] at h
      exact absurd rfl h
    | ok accepted =>
      rcases accepted with _ | ⟨_ | _, sql⟩
      · rw [respond_of_ping hpath haccept] at h
        exact absurd rfl h
      · exact exists_orders_of_accept hpath haccept h
      · rw [respond_of_accept hpath haccept, runAt_true] at h
        exact absurd rfl h

/-- Requests that are no orders may be left out of a history. -/
theorem foldl_respond_filter {keep : Request → Bool} {rs : List Request}
    (hkeep : ∀ r ∈ rs, ∀ st, config.Orders r st → keep r = true) (tree : Tree) :
    (rs.filter keep).foldl (fun t r => (config.respond r t).2) tree =
      rs.foldl (fun t r => (config.respond r t).2) tree := by
  induction rs generalizing tree with
  | nil => rfl
  | cons r rs ih =>
    have hrest := ih fun r hr => hkeep r (List.mem_cons_of_mem _ hr)
    cases hr : keep r with
    | true => rw [List.filter_cons_of_pos hr, List.foldl_cons, List.foldl_cons, hrest]
    | false =>
      have hsame : (config.respond r tree).2 = tree := by
        by_contra hchanged
        obtain ⟨st, horders⟩ := exists_orders_of_changed hchanged
        rw [hkeep r List.mem_cons_self st horders] at hr
        cases hr
      rw [List.filter_cons_of_neg (by simp [hr]), List.foldl_cons, hsame, hrest]

/-! ## What is turned away -/

/-- The request asks for no path that is there, or by the wrong method, or for a place of the REST interface without
the credentials of the service. -/
inductive TurnedAway (config : Service) (r : Request) : Prop
  | unknownPath (h : ∀ e : Endpoint, pathOf r.target ≠ .ok e.path)
  | wrongMethod (e : Endpoint) (hpath : pathOf r.target = .ok e.path) (hmethod : r.method ≠ e.method)
  | noCredentials {path : String} (hpath : pathOf r.target = .ok path) (hplace : "/rest/v1".toList <+: path.toList)
      (h : ¬ config.Carries r)

theorem accept_of_route_error (h : route path r = .error fault) : config.accept path r = .error fault := by
  rw [accept, h]
  rfl

theorem accept_of_authorize_error (hroute : route path r = .ok e) (hping : e ≠ .ping)
    (h : config.authorize r = .error fault) : config.accept path r = .error fault := by
  rw [accept, hroute]
  cases e with
  | ping => exact absurd rfl hping
  | query | nonQuery =>
    show (config.authorize r >>= _) = _
    rw [h]
    rfl

/-- Neither the route nor the credentials are sought in the body, so the fault is the same for every body. -/
theorem TurnedAway.exists_fault (h : config.TurnedAway r) (hpath : pathOf r.target = .ok path) :
    ∃ fault, ∀ body complete, config.accept path { r with body := body, complete := complete } = .error fault := by
  cases hroute : route path r with
  | error fault => exact ⟨fault, fun _ _ => accept_of_route_error hroute⟩
  | ok e =>
    obtain ⟨rfl, hmethod⟩ := route_eq_ok_iff.1 hroute
    cases h with
    | unknownPath h => exact absurd hpath (h e)
    | wrongMethod e' hpath' hmethod' =>
      have hsame : e'.path = e.path := Except.ok.inj (hpath'.symm.trans hpath)
      have he : some e' = some e := by
        rw [← ofPath?_eq_some_iff.2 hsame, ← ofPath?_eq_some_iff.2 rfl]
      cases he
      exact absurd hmethod hmethod'
    | @noCredentials path' hpath' hplace h =>
      have hsame : path' = e.path := Except.ok.inj (hpath'.symm.trans hpath)
      have hping : e ≠ .ping := by
        rintro rfl
        rw [hsame] at hplace
        exact absurd hplace (by decide)
      cases hauth : config.authorize r with
      | ok => exact absurd (authorize_eq_ok_iff.1 hauth) h
      | error fault => exact ⟨fault, fun _ _ => accept_of_authorize_error hroute hping hauth⟩

/-- One reply answers the request on every tree and with every body. -/
theorem TurnedAway.exists_respond_eq (h : config.TurnedAway r) :
    ∃ reply, ∀ body complete tree,
      config.respond { r with body := body, complete := complete } tree = (reply, tree) := by
  cases hpath : pathOf r.target with
  | error fault => exact ⟨unreadableReply fault, fun body complete tree => by rw [respond, hpath]⟩
  | ok path =>
    obtain ⟨fault, hfault⟩ := h.exists_fault hpath
    exact ⟨faultReply fault, fun body complete tree => respond_of_fault hpath (hfault body complete)⟩

/-! ## Closed to others -/

/-- The service is closed to requests without its credentials. The tree changes only by an order, and by an order as
its statement changes it; and the reply to a request that is turned away depends neither on the tree nor on the body. -/
theorem changed_only_by_orders (config : Service) (r : Request) :
    (∀ tree, (config.respond r tree).2 ≠ tree →
      ∃ st, config.Orders r st ∧ (config.respond r tree).2 = (tree.apply st).2) ∧
    (∀ tree st, config.Orders r st → (config.respond r tree).2 = (tree.apply st).2) ∧
    (config.TurnedAway r → ∀ tree tree' body body' complete complete',
      (config.respond { r with body := body, complete := complete } tree).1 =
        (config.respond { r with body := body', complete := complete' } tree').1) := by
  refine ⟨fun tree hchanged => ?_, fun tree st h => h.respond_snd tree, fun h => ?_⟩
  · obtain ⟨st, h⟩ := exists_orders_of_changed hchanged
    exact ⟨st, h, h.respond_snd tree⟩
  · obtain ⟨reply, hreply⟩ := h.exists_respond_eq
    intro tree tree' body body' complete complete'
    rw [hreply, hreply]

/-- With the default credentials a database is created, also where the target names a server before the path and a
fragment behind it; with another password nothing can be learnt of it. -/
theorem changed_only_by_orders_local :
    let order : Request := {
      method := "POST", target := "http://h/rest/v1/nonQuery#x", body := Wire.statementBody "create database root.a",
      authorization := some (RestClient.basicCredentials "root" "IoTDB@2011") }
    let stranger := { order with authorization := some (RestClient.basicCredentials "root" "IoTDB@2012") }
    (respond {} order .initial).2 = (Tree.initial.apply (.createDatabase ⟨"root.a"⟩)).2 ∧
      (respond {} order .initial).2 ≠ .initial ∧
      ∀ tree body complete,
        (respond {} stranger .initial).1 =
          (respond {} { stranger with body := body, complete := complete } tree).1 := by
  intro order stranger
  have hpath : pathOf order.target = .ok "/rest/v1/nonQuery" := by decide +kernel
  have horders : Orders {} order (.createDatabase ⟨"root.a"⟩) :=
    ⟨hpath, rfl, authorize_eq_ok_iff.1 (accepts_local order rfl), rfl,
      ⟨_, Wire.statement?_statementBody _, by decide +kernel⟩, rfl⟩
  have hstranger : TurnedAway {} stranger := by
    refine .noCredentials hpath (by decide) fun h => ?_
    have hauth := authorize_eq_ok_iff.2 h
    revert hauth
    decide +kernel
  have hchanges := (changed_only_by_orders {} order).2.1 .initial _ horders
  refine ⟨hchanges, ?_, fun tree body complete => ?_⟩
  · rw [hchanges]
    decide +kernel
  · exact (changed_only_by_orders {} stranger).2.2 hstranger _ _ stranger.body _ true _

end SeriesCatalog.Service
