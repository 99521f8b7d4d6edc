/-
Credentials on their way from the text of a URL to the service. The client sends them as the Base64 of
the user, a colon and the password, in a header that arrives as it was sent; the service reads the user
up to the first colon. So it is the two texts put together that must agree, and a service whose user
holds a colon is open to nobody.
-/
import SeriesCatalog.Proofs.Service.Access
import SeriesCatalog.Proofs.ServerUrl.ReadBack
import SeriesCatalog.Proofs.Text.Base64

namespace SeriesCatalog.Service

open Http

variable {config : Service} {r : Request} {u p : String} {user password : List Char}

/-! ## The header -/

/-- The characters that credentials are sent as, behind the name of the scheme. -/
def sentText (u p : String) : List Char := Base64.encode (Utf8.encode (u.toList ++ ':' :: p.toList))

theorem toList_basicCredentials (u p : String) :
    (RestClient.basicCredentials u p).toList = "Basic ".toList ++ sentText u p := by
  simp [RestClient.basicCredentials, sentText]

theorem sentText_ne_nil (u p : String) : sentText u p ≠ [] := by
  intro h
  have hbytes := congrArg Utf8.decode (Base64.encode_eq_nil_iff.1 h)
  rw [Utf8.decode_encode] at hbytes
  simp [Utf8.decode, Utf8.pieces, Utf8.piecesFrom, Utf8.textFrom] at hbytes

/-- Neither end of the header is a space or a tab, so it arrives as it was sent. -/
theorem headerText_basicCredentials (u p : String) :
    headerText (RestClient.basicCredentials u p) = "Basic ".toList ++ sentText u p := by
  obtain ⟨cs, c, hsent⟩ := List.eq_nil_or_concat (sentText u p) |>.resolve_left (sentText_ne_nil u p)
  have hc : Base64.IsVisible c := Base64.isVisible_of_mem_encode c (by rw [← sentText, hsent]; simp)
  have hedge : (c == ' ' || c == '\t') = false := by
    rw [Bool.or_eq_false_iff, beq_eq_false_iff_ne, beq_eq_false_iff_ne]
    constructor <;> rintro rfl <;> exact absurd hc (by decide)
  rw [headerText, toList_basicCredentials, hsent]
  have hparts : "Basic ".toList ++ cs.concat c = 'B' :: ("asic ".toList ++ cs) ++ [c] := by simp
  rw [hparts]
  exact Cut.trimBy_eq_self (by decide) hedge

theorem isLegible_basicCredentials (u p : String) :
    isLegible (headerText (RestClient.basicCredentials u p)) = true := by
  have hsent : isLegible (sentText u p) = true := by
    refine List.all_eq_true.2 fun c hc => ?_
    obtain ⟨hlow, hhigh, -⟩ := Base64.isVisible_of_mem_encode c hc
    simp [hhigh, le_of_lt hlow]
  rw [headerText_basicCredentials, isLegible, List.all_append, ← isLegible, ← isLegible, hsent]
  decide

/-- The service reads the header as the text that was sent, cut at its first colon. -/
theorem credentials?_basicCredentials (u p : String) :
    credentials? (headerText (RestClient.basicCredentials u p)) =
      Text.cutFirst [':'] (u.toList ++ ':' :: p.toList) := by
  have hscheme : "Basic ".toList.isPrefixOf? ("Basic ".toList ++ sentText u p) = some (sentText u p) :=
    List.isPrefixOf?_eq_some_iff_append_eq.2 rfl
  have htrim : Text.trim (sentText u p) = sentText u p :=
    Cut.trimBy_of_all fun c hc => (Base64.isVisible_of_mem_encode c hc).2.2
  have hbytes : Base64.decode? (sentText u p) = some (Utf8.encode (u.toList ++ ':' :: p.toList)) :=
    Base64.decode?_encode _
  rw [credentials?, headerText_basicCredentials, hscheme]
  simp [htrim, hbytes, Utf8.decode_encode, Except.toOption]

/-- Cut at their first colons, two texts are equal if the parts are. -/
theorem parts_eq_iff {user' password' : List Char} (h : ':' ∉ user) :
    user = user' ∧ password = password' ↔ ':' ∉ user' ∧ user ++ ':' :: password = user' ++ ':' :: password' := by
  constructor
  · rintro ⟨rfl, rfl⟩
    exact ⟨h, rfl⟩
  · rintro ⟨h', heq⟩
    have hcut : Text.cutFirst [':'] (user ++ ':' :: password) = some (user, password) :=
      Text.cutFirst_singleton_eq_some_iff.2 ⟨rfl, h⟩
    rw [Text.cutFirst_singleton_eq_some_iff.2 ⟨heq, h'⟩] at hcut
    cases hcut
    exact ⟨rfl, rfl⟩

/-- The service lets in whoever sends its user and its password, as they stand around the first colon sent. -/
theorem authorize_basicCredentials (hsent : r.authorization = some (RestClient.basicCredentials u p))
    (hcut : Text.cutFirst [':'] (u.toList ++ ':' :: p.toList) = some (user, password)) :
    config.authorize r =
      if user = config.user.toList ∧ password = config.password.toList then .ok ()
      else .error (.wrongCredentials (String.ofList user)) := by
  unfold authorize
  simp only [hsent, isLegible_basicCredentials, credentials?_basicCredentials, hcut]
  by_cases hright : user = config.user.toList ∧ password = config.password.toList
  · simp [hright]
    rfl
  · have hwrong : user ≠ config.user.toList ∨ password ≠ config.password.toList := not_and_or.1 hright
    simp [hright, hwrong]
    rfl

/-! ## Refusals -/

theorem Fault.isSigned64_code (fault : Fault) : Bounded.isSigned64 fault.code = true := by
  cases fault <;> simp [code, Bounded.isSigned64]

theorem Fault.code_ne_success (fault : Fault) : fault.code ≠ Wire.successCode := by
  cases fault <;> simp [code, Wire.successCode]

variable {c : RestClient} {e : Engine Tree} {fault : Fault}

/-- The engine's calls are accepted: each is answered as the tree answers its text, and does to the tree what
that does. -/
def Admitted (e : Engine Tree) : Prop := ∀ sql tree,
  (e.execute sql).on tree = ((tree.executed sql).mapError (·.reported sql), (tree.execute sql).2) ∧
    (e.query sql).on tree = ((tree.queried sql).mapError (·.reported sql), tree)

/-- The engine's calls are refused for a fault: each reports it, and the tree stays as it was. -/
def RefusedFor (e : Engine Tree) (fault : Fault) : Prop := ∀ sql tree,
  (e.execute sql).on tree = (.error (.server fault.code fault.message sql), tree) ∧
    (e.query sql).on tree = (.error (.server fault.code fault.message sql), tree)

theorem Reaches.admitted (h : config.Reaches c) (he : e.transport = some (c.transport config.link)) : Admitted e := by
  intro sql tree
  rw [Engine.execute, Engine.query, Engine.call, Engine.call, he]
  exact ⟨h.on_execute sql tree, h.on_query sql tree⟩

theorem Arrives.on_send_of_authorize_error (h : Arrives c)
    (hauth : ∀ r : Request, r.authorization = some c.authorization → config.authorize r = .error fault)
    (forQueries : Bool) (sql : String) (tree : Tree) :
    (c.send config.link (c.sqlErrand (Endpoint.name forQueries) sql)).on tree = (.ok (faultReply fault), tree) := by
  have haccept : config.accept (endpointFor forQueries).path (statementRequest c forQueries sql) = .error fault :=
    accept_of_authorize_error (route_statementRequest forQueries) (by cases forQueries <;> nofun) (hauth _ rfl)
  rw [h.on_send, respond_of_fault (pathOf_statementRequest forQueries) haccept]

theorem Arrives.refusedFor (h : Arrives c)
    (hauth : ∀ r : Request, r.authorization = some c.authorization → config.authorize r = .error fault)
    (he : e.transport = some (c.transport config.link)) : RefusedFor e fault := by
  intro sql tree
  rw [Engine.execute, Engine.query, Engine.call, Engine.call, he]
  constructor
  · rw [on_execute_of_send (h.on_send_of_authorize_error hauth false sql tree), faultReply,
      checkStatus_of_failed ⟨fault.code, fault.message⟩ fault.isSigned64_code fault.code_ne_success]
  · rw [on_query_of_send (h.on_send_of_authorize_error hauth true sql tree), faultReply,
      rows_of_failed ⟨fault.code, fault.message⟩ fault.isSigned64_code fault.code_ne_success]

/-- The code of wrong credentials is no reason to turn down a statement. -/
theorem RefusedFor.not_admitted {user : String} (h : RefusedFor e (.wrongCredentials user)) : ¬ Admitted e := by
  intro hadmitted
  -- the empty text is turned down by every tree, with a code of its own
  have hexecuted : Tree.executed .initial "" = .error (.malformed (.unsupported "")) := by decide
  have hrefused := (h "" .initial).1
  rw [(hadmitted "" .initial).1, hexecuted] at hrefused
  cases hrefused

/-! ## From URL to service -/

/-- The service runs at a host and a port: addresses can name them, and every URL with them leads to it. -/
structure RunsAt (config : Service) (links : ServerUrl → Link Tree) (host : String) (port : UInt16) : Prop where
  host_ne : host ≠ ""
  isServer : IsServer (host ++ ":" ++ toString port.toNat)
  short : (Address.start ++ (host ++ ":" ++ toString port.toNat ++ Endpoint.nonQuery.path)).utf8ByteSize ≤ maxAddress
  link_eq : ∀ url : ServerUrl, url.host = host → url.port = port → links url = config.link

variable {registry : Registry} {settings : Settings.Engine} {links : ServerUrl → Link Tree} {host : String}
  {port : UInt16}

theorem RunsAt.delimited (h : config.RunsAt links host port) (u p : String) :
    (ServerUrl.mk Registry.defaultScheme u p host port).Delimited := by
  have hne : Registry.defaultScheme ≠ "" := by decide
  have hmark : ¬ "://".toList <:+: Registry.defaultScheme.toList := by decide
  refine ⟨hne, hmark, h.host_ne, fun hat => h.isServer.noCredentials ?_⟩
  have hat : '@' ∈ host.toList := hat
  simp [hat]

/-- The text of a URL with any credentials connects an engine to the service. -/
theorem RunsAt.exists_ofUrl (h : config.RunsAt links host port)
    (hscheme : registry.resolve Registry.defaultScheme = .ok .rest)
    (hplace : Cut.trimEnd (· == '/') settings.apiPrefix.toList = "/rest/v1".toList) (u p : String) :
    ∃ c e, Engine.ofUrl registry (ServerUrl.mk Registry.defaultScheme u p host port).text settings links = .ok e ∧
      e.transport = some (c.transport config.link) ∧ Arrives c ∧
      c.authorization = RestClient.basicCredentials u p := by
  let url : ServerUrl := ⟨Registry.defaultScheme, u, p, host, port⟩
  let c : RestClient := RestClient.ofUrl url settings
  have hplaced : c.apiPrefix = "/rest/v1" := by
    show String.ofList (Cut.trimEnd (· == '/') settings.apiPrefix.toList) = _
    rw [hplace]
    rfl
  refine ⟨c, ⟨url.redacted, Driver.rest.dialect, some (c.transport config.link)⟩, ?_, rfl,
    ⟨h.isServer, h.short, hplaced⟩, rfl⟩
  rw [Engine.ofUrl, ServerUrl.parse_eq_ok_iff.2 (h.delimited u p).read_text]
  dsimp only
  rw [Engine.connect, hscheme, h.link_eq _ rfl rfl]
  rfl

/-- The text of a URL, whatever the credentials in it, connects an engine to the service that runs at its host and port.
The engine is admitted exactly if the service's user holds no colon and the user, a colon and the password are the same
text on both sides; for a user without a colon that is if user and password are the service's own. An engine that is
not admitted is refused for the user that stands before the first colon. -/
theorem admitted_ofUrl_text_iff (hruns : config.RunsAt links host port)
    (hscheme : registry.resolve Registry.defaultScheme = .ok .rest)
    (hplace : Cut.trimEnd (· == '/') settings.apiPrefix.toList = "/rest/v1".toList) (u p : String) :
    ∃ e, Engine.ofUrl registry (ServerUrl.mk Registry.defaultScheme u p host port).text settings links = .ok e ∧
      (Admitted e ↔ ':' ∉ config.user.toList ∧ u ++ ":" ++ p = config.user ++ ":" ++ config.password) ∧
      (':' ∉ u.toList → (Admitted e ↔ u = config.user ∧ p = config.password)) ∧
      (¬ Admitted e → ∃ user password, user ++ ":" ++ password = u ++ ":" ++ p ∧ ':' ∉ user.toList ∧
        RefusedFor e (.wrongCredentials user)) := by
  obtain ⟨c, e, he, htransport, harrives, hsent⟩ := hruns.exists_ofUrl hscheme hplace u p
  have hcolon : ':' ∈ u.toList ++ ':' :: p.toList := by simp
  obtain ⟨user, password, htext, huser⟩ := List.eq_append_cons_of_mem hcolon
  have hcut : Text.cutFirst [':'] (u.toList ++ ':' :: p.toList) = some (user, password) :=
    Text.cutFirst_singleton_eq_some_iff.2 ⟨htext, huser⟩
  -- the header alone decides, so all requests of the engine fare alike
  have hauth : ∀ r : Request, r.authorization = some c.authorization → config.authorize r = _ :=
    fun r hr => authorize_basicCredentials (hr.trans (congrArg some hsent)) hcut
  have hadmitted : Admitted e ↔ user = config.user.toList ∧ password = config.password.toList := by
    constructor
    · intro hin
      by_contra hwrong
      simp only [if_neg hwrong] at hauth
      exact (harrives.refusedFor hauth htransport).not_admitted hin
    · intro hright
      simp only [if_pos hright] at hauth
      have hreaches : config.Reaches c := ⟨harrives.isServer, harrives.short, harrives.apiPrefix, hauth⟩
      exact hreaches.admitted htransport
  have hstrings : ∀ a b : String, a ++ ":" ++ b = config.user ++ ":" ++ config.password ↔
      a.toList ++ ':' :: b.toList = config.user.toList ++ ':' :: config.password.toList := by
    intro a b
    rw [← String.toList_inj]
    simp
  have hstated : Admitted e ↔ ':' ∉ config.user.toList ∧ u ++ ":" ++ p = config.user ++ ":" ++ config.password := by
    rw [hadmitted, parts_eq_iff huser, hstrings, ← htext]
  refine ⟨e, he, hstated, fun hu => ?_, fun hout => ?_⟩
  · rw [hstated, hstrings, ← parts_eq_iff hu, String.toList_inj, String.toList_inj]
  · rw [hadmitted] at hout
    simp only [if_neg hout] at hauth
    refine ⟨String.ofList user, String.ofList password, ?_, ?_, harrives.refusedFor hauth htransport⟩
    · rw [← String.toList_inj]
      simp [htext]
    · rwa [String.toList_ofList]

theorem runsAt_local (config : Service) : config.RunsAt (fun _ => config.link) "127.0.0.1" 18080 := by
  refine ⟨by decide, ⟨?_, ?_⟩, ?_, fun _ _ _ => rfl⟩
  all_goals decide +kernel

/-- A colon in the user that is sent does no harm: what counts is the two texts put together. One in the service's own
user does, and then even its own credentials are refused. -/
theorem admitted_ofUrl_text_colon :
    let config : Service := ⟨"a", "b:ü @%"⟩
    let other : Service := ⟨"a:b", "ü @%"⟩
    let url : ServerUrl := ⟨"iotdb", "a:b", "ü @%", "127.0.0.1", 18080⟩
    (∃ e, Engine.ofUrl .withDefaults url.text {} (fun _ => config.link) = .ok e ∧ Admitted e) ∧
      ∃ e, Engine.ofUrl .withDefaults url.text {} (fun _ => other.link) = .ok e ∧ ¬ Admitted e := by
  intro config other url
  have hscheme : Registry.withDefaults.resolve Registry.defaultScheme = .ok .rest := rfl
  have hplace : Cut.trimEnd (· == '/') ({} : Settings.Engine).apiPrefix.toList = "/rest/v1".toList := by decide
  constructor
  · obtain ⟨e, he, hiff, -, -⟩ := admitted_ofUrl_text_iff (runsAt_local config) hscheme hplace "a:b" "ü @%"
    exact ⟨e, he, hiff.2 (by decide)⟩
  · obtain ⟨e, he, hiff, -, -⟩ := admitted_ofUrl_text_iff (runsAt_local other) hscheme hplace "a:b" "ü @%"
    exact ⟨e, he, fun hin => absurd (hiff.1 hin).1 (by decide)⟩

end SeriesCatalog.Service
