/-
Engines that are connected to the service. Where the URL's host and port make up an authority, the
addresses of the REST interface lead to the URL's own server and nowhere else, so every request of
the engine arrives; with credentials that the service accepts, its statement arrives too. A call then
answers exactly as the tree does when the text is run on it directly.
-/
import SeriesCatalog.Engine
import SeriesCatalog.Proofs.Result
import SeriesCatalog.Proofs.Text.Cut
import SeriesCatalog.Proofs.Service.Reply

namespace SeriesCatalog

open Http

/-! ## Addresses -/

namespace Http

theorem Authority.step_of_endsAuthority {a b : Authority} {c : Char} (h : a.step c = .ok b) :
    endsAuthority c = false := by
  rw [Bool.eq_false_iff]
  intro hc
  have hends : c = '/' ∨ c = '?' ∨ c = '#' := by simpa [endsAuthority, or_assoc] using hc
  rcases hends with rfl | rfl | rfl <;> cases h

/-- What is read as an authority holds no character that ends one. -/
theorem not_endsAuthority_of_foldlM {a b : Authority} {cs : List Char} (h : cs.foldlM Authority.step a = .ok b) :
    ∀ c ∈ cs, endsAuthority c = false := by
  induction cs generalizing a with
  | nil => nofun
  | cons c cs ih =>
    rw [List.foldlM_cons] at h
    obtain ⟨a', hstep, hrest⟩ := bind_eq_ok_iff.1 h
    intro d hd
    rcases List.mem_cons.1 hd with rfl | hd
    · exact Authority.step_of_endsAuthority hstep
    · exact ih hrest d hd

/-- A text that names a server: an authority without credentials. -/
structure IsServer (server : String) : Prop where
  authority : checkAuthority server.toList = .ok ()
  noCredentials : '@' ∉ server.toList

variable {server : String}

theorem IsServer.not_endsAuthority (h : IsServer server) : ∀ c ∈ server.toList, endsAuthority c = false := by
  have hcheck := h.authority
  unfold checkAuthority at hcheck
  obtain ⟨a, hscan, -⟩ := bind_eq_ok_iff.1 hcheck
  exact not_endsAuthority_of_foldlM hscan

theorem IsServer.server_mk (h : IsServer server) (target : String) : (Address.mk server target).server = server := by
  rw [Address.server, Text.cutLast_eq_none_iff.2 h.noCredentials]

/-- An address on a server leads to the place on it. -/
theorem IsServer.read (h : IsServer server) {place : String}
    (hshort : (Address.start ++ (server ++ place)).utf8ByteSize ≤ maxAddress)
    (hslash : place.toList.head? = some '/') (htarget : readTarget place.toList = .ok place) :
    Address.read (server ++ place) = .ok ⟨server, place⟩ := by
  obtain ⟨rest, hplace⟩ := List.head?_eq_some_iff.1 hslash
  have hserver : ∀ c ∈ server.toList, (!endsAuthority c) = true := by
    intro c hc
    rw [h.not_endsAuthority c hc]
    rfl
  have hauthority : (server ++ place).toList.takeWhile (!endsAuthority ·) = server.toList := by
    rw [String.toList_append, List.takeWhile_append_of_pos hserver, hplace]
    simp [endsAuthority]
  have hrest : (server ++ place).toList.dropWhile (!endsAuthority ·) = place.toList := by
    rw [String.toList_append, List.dropWhile_append_of_pos hserver, hplace]
    simp [endsAuthority]
  unfold Address.read
  rw [if_neg (not_lt.2 hshort), hauthority, hrest]
  simp [h.authority, htarget, bind, Except.bind, pure, Except.pure]

end Http

namespace Service

variable {config : Service} {tree : Tree} {sql : String}

/-! ## Requests that arrive -/

/-- The endpoint that takes texts for their rows or for their effect. -/
def endpointFor (forQueries : Bool) : Endpoint := if forQueries then .query else .nonQuery

theorem accept_of_authorized {path : String} {r : Request} {forQueries : Bool}
    (hroute : route path r = .ok (endpointFor forQueries)) (hauth : config.authorize r = .ok ())
    (hcomplete : r.complete = true) (hbody : Wire.statement? r.body = some sql) :
    config.accept path r = .ok (some (forQueries, sql)) := by
  have htext : statementText r = .ok sql := by
    unfold statementText
    rw [hcomplete, hbody]
    rfl
  unfold accept
  rw [hroute]
  cases forQueries <;> simp [endpointFor, hauth, htext, bind, Except.bind, pure, Except.pure]

theorem respond_of_accept {path : String} {r : Request} {forQueries : Bool} (hpath : pathOf r.target = .ok path)
    (h : config.accept path r = .ok (some (forQueries, sql))) :
    config.respond r tree = (outcomeReply (runAt forQueries tree sql).1, (runAt forQueries tree sql).2) := by
  rw [respond, hpath]
  dsimp only
  rw [h]

theorem respond_of_fault {path : String} {r : Request} {fault : Fault} (hpath : pathOf r.target = .ok path)
    (h : config.accept path r = .error fault) : config.respond r tree = (faultReply fault, tree) := by
  rw [respond, hpath]
  dsimp only
  rw [h]

/-- The place of an endpoint behind the prefix of the REST interface. -/
def Endpoint.name (forQueries : Bool) : String := if forQueries then "query" else "nonQuery"

theorem path_endpointFor (forQueries : Bool) :
    "/rest/v1" ++ "/" ++ Endpoint.name forQueries = (endpointFor forQueries).path := by
  cases forQueries <;> decide

theorem readTarget_endpointFor (forQueries : Bool) :
    readTarget (endpointFor forQueries).path.toList = .ok (endpointFor forQueries).path := by
  cases forQueries <;> decide

theorem pathOf_endpointFor (forQueries : Bool) :
    pathOf (endpointFor forQueries).path = .ok (endpointFor forQueries).path := by
  cases forQueries <;> decide +kernel

theorem route_endpointFor {r : Request} {forQueries : Bool} (hmethod : r.method = "POST") :
    route (endpointFor forQueries).path r = .ok (endpointFor forQueries) := by
  have hfound : Endpoint.ofPath? (endpointFor forQueries).path = some (endpointFor forQueries) := by
    cases forQueries <;> decide
  have hpost : (endpointFor forQueries).method = "POST" := by cases forQueries <;> rfl
  unfold route
  rw [hfound]
  show (if r.method = (endpointFor forQueries).method then _ else _) = _
  rw [if_pos (hmethod.trans hpost.symm)]

/-- The service accepts every request that carries these credentials. -/
def Accepts (config : Service) (authorization : String) : Prop :=
  ∀ r : Request, r.authorization = some authorization → config.authorize r = .ok ()

/-- A client whose requests arrive at the service: its server is one that addresses can name, the REST interface lies
at the default place, and the service accepts its credentials. -/
structure Reaches (config : Service) (c : RestClient) : Prop where
  isServer : IsServer c.server
  short : (Address.start ++ (c.server ++ Endpoint.nonQuery.path)).utf8ByteSize ≤ maxAddress
  apiPrefix : c.apiPrefix = "/rest/v1"
  accepts : config.Accepts c.authorization

variable {c : RestClient}

/-- A request whose address leads to the client's server goes over the link. -/
theorem on_send_of_read {σ : Type} {link : Link σ} {errand : RestClient.Errand} {address : Address}
    (hread : Address.read (c.server ++ errand.place) = .ok address) (hserver : address.server = c.server) (s : σ) :
    (c.send link errand).on s =
      (c.replyOf errand (link (c.request errand address.target) s).1,
        (link (c.request errand address.target) s).2) := by
  show c.send link errand s = _
  unfold RestClient.send
  rw [hread]
  dsimp only
  rw [if_pos hserver]

/-- A reply that comes back decides a call, and the call does nothing else. -/
theorem on_execute_of_send {σ : Type} {link : Link σ} {reply : Reply} {s s' : σ}
    (h : (c.send link (c.sqlErrand (Endpoint.name false) sql)).on s = (.ok reply, s')) :
    ((c.transport link).execute sql).on s = (RestClient.checkStatus reply sql, s') := by
  show Call.on (c.send link (c.sqlErrand (Endpoint.name false) sql) >>= fun r =>
    liftM (RestClient.checkStatus r sql)) s = _
  rw [Call.on_bind, h]
  rfl

theorem on_query_of_send {σ : Type} {link : Link σ} {reply : Reply} {s s' : σ}
    (h : (c.send link (c.sqlErrand (Endpoint.name true) sql)).on s = (.ok reply, s')) :
    ((c.transport link).query sql).on s = (RestClient.rows reply sql, s') := by
  show Call.on (c.send link (c.sqlErrand (Endpoint.name true) sql) >>= fun r =>
    liftM (RestClient.rows r sql)) s = _
  rw [Call.on_bind, h]
  rfl

/-- The request that brings a statement to its endpoint. -/
def statementRequest (c : RestClient) (forQueries : Bool) (sql : String) : Request :=
  c.request (c.sqlErrand (Endpoint.name forQueries) sql) (endpointFor forQueries).path

theorem pathOf_statementRequest (forQueries : Bool) :
    pathOf (statementRequest c forQueries sql).target = .ok (endpointFor forQueries).path :=
  pathOf_endpointFor forQueries

theorem route_statementRequest (forQueries : Bool) :
    route (endpointFor forQueries).path (statementRequest c forQueries sql) = .ok (endpointFor forQueries) :=
  route_endpointFor rfl

/-- The client's statements arrive at the service, whatever credentials they carry. -/
structure Arrives (c : RestClient) : Prop where
  isServer : IsServer c.server
  short : (Address.start ++ (c.server ++ Endpoint.nonQuery.path)).utf8ByteSize ≤ maxAddress
  apiPrefix : c.apiPrefix = "/rest/v1"

theorem Reaches.arrives (h : config.Reaches c) : Arrives c := ⟨h.isServer, h.short, h.apiPrefix⟩

/-- What arrives is replied to, and the reply comes back. -/
theorem Arrives.on_send (h : Arrives c) (forQueries : Bool) (sql : String) (tree : Tree) :
    (c.send config.link (c.sqlErrand (Endpoint.name forQueries) sql)).on tree =
      (.ok (config.respond (statementRequest c forQueries sql) tree).1,
        (config.respond (statementRequest c forQueries sql) tree).2) := by
  have hplace : (c.sqlErrand (Endpoint.name forQueries) sql).place = (endpointFor forQueries).path := by
    show c.apiPrefix ++ "/" ++ Endpoint.name forQueries = _
    rw [h.apiPrefix, path_endpointFor]
  have hlength : (endpointFor forQueries).path.utf8ByteSize ≤ Endpoint.nonQuery.path.utf8ByteSize := by
    cases forQueries <;> decide
  have hread : Address.read (c.server ++ (c.sqlErrand (Endpoint.name forQueries) sql).place) =
      .ok ⟨c.server, (endpointFor forQueries).path⟩ := by
    rw [hplace]
    refine h.isServer.read ?_ (by cases forQueries <;> decide) (readTarget_endpointFor forQueries)
    have hshort := h.short
    simp only [String.utf8ByteSize_append] at hshort ⊢
    omega
  have hlink : config.link (statementRequest c forQueries sql) tree =
      (.reply (config.respond (statementRequest c forQueries sql) tree).1,
        (config.respond (statementRequest c forQueries sql) tree).2) := rfl
  rw [on_send_of_read hread (h.isServer.server_mk _), ← statementRequest, hlink, RestClient.replyOf]

/-- The statement of a request arrives, and its reply is read as one to what became of it. -/
theorem Reaches.on_send (h : config.Reaches c) (forQueries : Bool) (sql : String) (tree : Tree) :
    (c.send config.link (c.sqlErrand (Endpoint.name forQueries) sql)).on tree =
      (.ok (outcomeReply (runAt forQueries tree sql).1), (runAt forQueries tree sql).2) := by
  have haccept : config.accept (endpointFor forQueries).path (statementRequest c forQueries sql) =
      .ok (some (forQueries, sql)) :=
    accept_of_authorized (route_statementRequest forQueries) (h.accepts _ rfl) rfl (Wire.statement?_statementBody sql)
  rw [h.arrives.on_send, respond_of_accept (pathOf_statementRequest forQueries) haccept]

theorem Reaches.on_execute (h : config.Reaches c) (sql : String) (tree : Tree) :
    ((c.transport config.link).execute sql).on tree =
      ((tree.executed sql).mapError (·.reported sql), (tree.execute sql).2) := by
  rw [on_execute_of_send (h.on_send false sql tree), runAt_false]
  cases hx : tree.executed sql with
  | ok u => simp [Except.map, Except.mapError, checkStatus_done]
  | error reason => simp [Except.map, Except.mapError, checkStatus_rejection]

theorem Reaches.on_query (h : config.Reaches c) (sql : String) (tree : Tree) :
    ((c.transport config.link).query sql).on tree = ((tree.queried sql).mapError (·.reported sql), tree) := by
  rw [on_query_of_send (h.on_send true sql tree), runAt_true]
  cases hx : tree.queried sql with
  | ok table => simp [Except.map, Except.mapError, rows_of_table (sendable_of_queried hx)]
  | error reason => simp [Except.map, Except.mapError, rows_of_rejection]

/-! ## Engines -/

/-- The engine was connected to the service: by a URL whose server addresses can name, with the default place of the
REST interface, and with credentials that the service accepts. -/
def Serves (config : Service) (e : Engine Tree) : Prop :=
  ∃ (registry : Registry) (url : ServerUrl) (settings : Settings.Engine),
    Engine.connect registry url settings config.link = .ok e ∧
      settings.apiPrefix = ({} : Settings.Engine).apiPrefix ∧ IsServer url.server ∧
      (Address.start ++ (url.server ++ Endpoint.nonQuery.path)).utf8ByteSize ≤ maxAddress ∧
      config.Accepts (RestClient.basicCredentials url.user url.password)

variable {e : Engine Tree}

theorem Serves.exists_reaches (h : config.Serves e) :
    ∃ c : RestClient, config.Reaches c ∧ e.transport = some (c.transport config.link) := by
  obtain ⟨registry, url, settings, hconnect, hplace, hserver, hshort, haccepts⟩ := h
  unfold Engine.connect at hconnect
  obtain ⟨driver, -, he⟩ := bind_eq_ok_iff.1 hconnect
  cases driver
  cases he
  refine ⟨RestClient.ofUrl url settings, ⟨hserver, hshort, ?_, haccepts⟩, rfl⟩
  show String.ofList (Cut.trimEnd (· == '/') settings.apiPrefix.toList) = _
  rw [hplace]
  decide

/-- A text run for its effect answers as the tree does, and leaves the tree as running it there leaves it. -/
theorem Serves.on_execute (h : config.Serves e) (sql : String) (tree : Tree) :
    (e.execute sql).on tree = ((tree.executed sql).mapError (·.reported sql), (tree.execute sql).2) := by
  obtain ⟨c, hc, he⟩ := h.exists_reaches
  rw [Engine.execute, Engine.call, he]
  exact hc.on_execute sql tree

/-- A text run for its rows answers as the tree does, and leaves the tree as it was. -/
theorem Serves.on_query (h : config.Serves e) (sql : String) (tree : Tree) :
    (e.query sql).on tree = ((tree.queried sql).mapError (·.reported sql), tree) := by
  obtain ⟨c, hc, he⟩ := h.exists_reaches
  rw [Engine.query, Engine.call, he]
  exact hc.on_query sql tree

/-! ## A service on this machine -/

/-- The URL of a service on this machine, with the credentials that it accepts by default. -/
def localUrl : ServerUrl := ⟨"iotdb", "root", "IoTDB@2011", "127.0.0.1", 18080⟩

/-- The engine that this URL connects to a service with all defaults. -/
def localEngine : Engine Tree :=
  ⟨localUrl.redacted, Driver.rest.dialect, some ((RestClient.ofUrl localUrl {}).transport (link {}))⟩

theorem accepts_local : Accepts {} (RestClient.basicCredentials "root" "IoTDB@2011") := by
  intro r h
  have hlegible : isLegible (headerText (RestClient.basicCredentials "root" "IoTDB@2011")) = true := by
    decide +kernel
  have hcredentials : credentials? (headerText (RestClient.basicCredentials "root" "IoTDB@2011")) =
      some ("root".toList, "IoTDB@2011".toList) := by
    decide +kernel
  unfold authorize
  rw [h]
  simp [hlegible, hcredentials, pure, Except.pure]

theorem serves_local : Serves {} localEngine := by
  refine ⟨.withDefaults, localUrl, {}, rfl, rfl, ⟨?_, ?_⟩, ?_, accepts_local⟩
  · decide +kernel
  · decide +kernel
  · decide +kernel

end Service

end SeriesCatalog
