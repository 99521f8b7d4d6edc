/-
The service: an in-memory server of the metadata tree behind the REST interface. A request whose target
cannot be read goes no further. Any other is routed by its path, then its method is checked, then its
credentials, and only then its body is read. A statement that is turned down still gets a reply of
success, whose body carries the code.
-/
import SeriesCatalog.Tree.Execution
import SeriesCatalog.DataSet
import SeriesCatalog.Http
import SeriesCatalog.Http.Address
import SeriesCatalog.Wire
import SeriesCatalog.Text.Base64

namespace SeriesCatalog

open Http

/-- The credentials that a service accepts. -/
structure Service where
  user : String := "root"
  password : String := "IoTDB@2011"
  deriving DecidableEq, Repr, Inhabited

namespace Service

/-! ## Faults -/

/-- Why a request does not reach the tree. -/
inductive Fault
  | noRoute (path : String)
  | wrongMethod
  | noCredentials
  | malformedCredentials
  | wrongCredentials (user : String)
  | stalledBody
  | malformedBody
  deriving DecidableEq, Repr

namespace Fault

/-- The status of the reply. -/
def status : Fault → Nat
  | noRoute _ => 404
  | wrongMethod => 405
  | noCredentials | malformedCredentials | wrongCredentials _ => 401
  | stalledBody => 408
  | malformedBody => 400

/-- The code in the reply's body. -/
def code : Fault → Int
  | noRoute _ => 404
  | wrongMethod => 405
  | noCredentials | malformedCredentials | wrongCredentials _ => 801
  | stalledBody => 408
  | malformedBody => 700

/-- The fault in words. The words of the reader of a malformed body would follow and are left out. -/
def message : Fault → String
  | noRoute path => "Not Found: No route found for " ++ path
  | wrongMethod => "Method Not Allowed"
  | noCredentials => "Unauthorized: missing Authorization header"
  | malformedCredentials => "Unauthorized: malformed credentials"
  | wrongCredentials user => "Unauthorized: wrong password for user " ++ user
  | stalledBody => "Request Timeout"
  | malformedBody => "Bad Request: Failed to parse request"

end Fault

/-! ## Credentials -/

/-- The header holds printable ASCII characters and tabs only. -/
def isLegible (header : List Char) : Bool :=
  header.all fun c => (0x20 ≤ c.toNat && c.toNat < 0x7F) || c == '\t'

/-- The user and the password that a header gives in Base64, with or without the name of the scheme
before them. -/
def credentials? (header : List Char) : Option (List Char × List Char) := do
  let encoded := ("Basic ".toList.isPrefixOf? header).getD header
  let bytes ← Base64.decode? (Text.trim encoded)
  let text ← (Utf8.decode bytes).toOption
  Text.cutFirst [':'] text

/-- The request carries the service's credentials. -/
def authorize (config : Service) (r : Request) : Except Fault Unit := do
  let some header := r.authorization | throw .noCredentials
  let cs := headerText header
  if !isLegible cs then throw .noCredentials
  let some (user, password) := credentials? cs | throw .malformedCredentials
  if user ≠ config.user.toList ∨ password ≠ config.password.toList then
    throw (.wrongCredentials (String.ofList user))

/-! ## Routes -/

/-- What a request may ask for. -/
inductive Endpoint
  | ping
  | query
  | nonQuery
  deriving DecidableEq, Repr

namespace Endpoint

/-- The path of an endpoint. -/
def path : Endpoint → String
  | ping => "/ping"
  | query => "/rest/v1/query"
  | nonQuery => "/rest/v1/nonQuery"

/-- The method that an endpoint takes. -/
def method : Endpoint → String
  | ping => "GET"
  | query | nonQuery => "POST"

/-- The endpoint at a path. -/
def ofPath? (path : String) : Option Endpoint := [ping, query, nonQuery].find? (·.path == path)

end Endpoint

/-- The endpoint of a request for a path. -/
def route (path : String) (r : Request) : Except Fault Endpoint :=
  match Endpoint.ofPath? path with
  | none => .error (.noRoute path)
  | some endpoint => if r.method = endpoint.method then .ok endpoint else .error .wrongMethod

/-- The text of the statement that a request asks for. -/
def statementText (r : Request) : Except Fault String :=
  if !r.complete then .error .stalledBody
  else
    match Wire.statement? r.body with
    | some sql => .ok sql
    | none => .error .malformedBody

/-! ## Replies -/

/-- A reply with a JSON body. -/
def jsonReply (status : Nat) (body : List UInt8) : Reply := ⟨status, some "application/json", body⟩

/-- The reply to a request that does not reach the tree. -/
def faultReply (fault : Fault) : Reply :=
  jsonReply fault.status (Wire.Status.mk fault.code fault.message).body

/-- The reply to a request whose target cannot be read, which has no body. -/
def unreadableReply : AddressFault → Reply
  | .tooLong => ⟨414, none, []⟩
  | _ => ⟨400, none, []⟩

/-- The reply to a statement. -/
def outcomeReply : Except Rejection Tree.Outcome → Reply
  | .ok .done => jsonReply 200 Wire.Status.success.body
  | .ok (.rows t) => jsonReply 200 (DataSet.ofTable t).toJson.bytes
  | .error reason => jsonReply 200 (Wire.Status.mk reason.code reason.message).body

/-- What becomes of a statement text at an endpoint that takes either queries or everything else. -/
def runAt (forQueries : Bool) (tree : Tree) (sql : String) : Except Rejection Tree.Outcome × Tree :=
  match Statement.parse sql with
  | .error fault => (.error (.malformed fault), tree)
  | .ok statement =>
    if statement.isQuery = forQueries then tree.apply statement
    else if forQueries then (.error .queryExpected, tree)
    else (.error .queryUnexpected, tree)

/-- What a request for a path asks for: nothing but an answer, or a statement, by its text, for its rows
or for its effect. Method and credentials are checked before the body is read. -/
def accept (config : Service) (path : String) (r : Request) :
    Except Fault (Option (Bool × String)) := do
  match ← route path r with
  | .ping => return none
  | .query =>
    authorize config r
    return some (true, ← statementText r)
  | .nonQuery =>
    authorize config r
    return some (false, ← statementText r)

/-- The reply to a request, and the tree after it. -/
def respond (config : Service) (r : Request) (tree : Tree) : Reply × Tree :=
  match pathOf r.target with
  | .error fault => (unreadableReply fault, tree)
  | .ok path =>
    match accept config path r with
    | .error fault => (faultReply fault, tree)
    | .ok none => (jsonReply 200 Wire.Status.success.body, tree)
    | .ok (some (forQueries, sql)) =>
      let (outcome, tree) := runAt forQueries tree sql
      (outcomeReply outcome, tree)

/-- The way to the service. -/
def link (config : Service) : Link Tree := fun r tree =>
  let (reply, tree) := config.respond r tree
  (.reply reply, tree)

end Service

end SeriesCatalog
