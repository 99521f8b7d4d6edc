/-
The REST client: calls as requests, and replies as results. A status body decides about success,
whatever the status line says; where there is none, the status line does. Rows come in a data set.
-/
import SeriesCatalog.Transport
import SeriesCatalog.DataSet
import SeriesCatalog.Http
import SeriesCatalog.Http.Address
import SeriesCatalog.Wire
import SeriesCatalog.Settings.Engine
import SeriesCatalog.Text.Base64

namespace SeriesCatalog

open Http

/-- A client of one server: where the server and its REST interface lie, the credentials it sends and
how many milliseconds a request may take. -/
structure RestClient where
  server : String
  apiPrefix : String
  authorization : String
  timeout : Nat
  deriving DecidableEq, Repr

namespace RestClient

/-- The header that carries credentials. -/
def basicCredentials (user password : String) : String :=
  "Basic " ++
    String.ofList (Base64.encode (Utf8.encode (user.toList ++ ':' :: password.toList)))

/-- The client of the server that a URL names. Slashes at the end of the REST interface's path do not
count. -/
def ofUrl (url : ServerUrl) (settings : Settings.Engine) : RestClient where
  server := url.server
  apiPrefix := String.ofList (Cut.trimEnd (· == '/') settings.apiPrefix.toList)
  authorization := basicCredentials url.user url.password
  timeout := settings.requestTimeout.toNat

/-! ## Requests -/

/-- A call to this place on the server. -/
structure Errand where
  method : String
  place : String
  body : List UInt8
  deriving DecidableEq, Repr

/-- Asks whether the server answers. -/
def pingErrand : Errand := ⟨"GET", "/ping", []⟩

/-- Sends a statement to an endpoint of the REST interface. -/
def sqlErrand (c : RestClient) (endpoint sql : String) : Errand :=
  ⟨"POST", c.apiPrefix ++ "/" ++ endpoint, Wire.statementBody sql⟩

/-- The request of an errand for a target. -/
def request (c : RestClient) (e : Errand) (target : String) : Request where
  method := e.method
  target := target
  contentType := some "application/json"
  accept := some "application/json"
  authorization := some c.authorization
  body := e.body

/-- What is reported when the exchange of an errand fails. -/
def failure (c : RestClient) (e : Errand) (reason : String) : CatalogError :=
  .transport ("Request to " ++ Address.start ++ c.server ++ e.place ++ " failed: client error (" ++
    reason ++ ")")

/-- The reply of an exchange, or why there is none. -/
def replyOf (c : RestClient) (e : Errand) : Exchange → Except CatalogError Reply
  | .reply r => .ok r
  | .unreachable => .error (c.failure e "Connect")
  | .closed => .error (c.failure e "SendRequest")
  | .truncated =>
    .error (.transport "Failed to read response: error reading a body from connection")
  | .silent => .error (.timeout c.timeout)

/-- Sends the request of an errand over the link to the client's server. Nothing is sent if its place
makes no address, or one that leads to another server, which is then out of reach. -/
def send {σ : Type} (c : RestClient) (link : Link σ) (e : Errand) : Call σ Reply := fun s =>
  match Address.read (c.server ++ e.place) with
  | .error fault => (.error (.transport ("Failed to build request: " ++ fault.message)), s)
  | .ok address =>
    if address.server = c.server then
      let (exchange, s) := link (c.request e address.target) s
      (c.replyOf e exchange, s)
    else (c.replyOf e .unreachable, s)

/-! ## Replies -/

/-- The error that a reply without a status body stands for. -/
def refused (r : Reply) (sql : String) : CatalogError :=
  .server r.status (String.ofList (Utf8.decodeLenient r.body)) sql

/-- The success of a statement, or why it failed. -/
def checkStatus (r : Reply) (sql : String) : Except CatalogError Unit :=
  match Wire.Status.ofBytes? r.body with
  | some status =>
    if status.code = Wire.successCode then .ok () else .error (.server status.code status.message sql)
  | none => if r.isSuccess then .ok () else .error (refused r sql)

/-- The rows that a reply brings. A body with a code and without values is a status. -/
def rows (r : Reply) (sql : String) : Except CatalogError Table :=
  match Json.ofBytes? r.body with
  | none => if r.isSuccess then .error (.decode "Invalid query response") else .error (refused r sql)
  | some v =>
    if (v.member? "code").isSome && (v.member? "values").isNone then do
      checkStatus r sql
      return {}
    else
      match DataSet.ofJson? v with
      | some d => .ok d.toTable
      | none => .error (.decode "Unexpected query payload")

/-- The calls of the client over a link. -/
def transport {σ : Type} (c : RestClient) (link : Link σ) : Transport σ where
  ping := do
    let r ← c.send link pingErrand
    checkStatus r "ping"
  execute sql := do
    let r ← c.send link (c.sqlErrand "nonQuery" sql)
    checkStatus r sql
  query sql := do
    let r ← c.send link (c.sqlErrand "query" sql)
    rows r sql

end RestClient

end SeriesCatalog
