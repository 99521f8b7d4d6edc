/-
Requests and replies of the web interface, and what may become of a request on the way to a server.
-/
import SeriesCatalog.Text.Cut

namespace SeriesCatalog.Http

/-- A request. Its body is complete, or it announces more than is ever sent. -/
structure Request where
  method : String
  target : String
  contentType : Option String := none
  accept : Option String := none
  authorization : Option String := none
  body : List UInt8 := []
  complete : Bool := true
  deriving DecidableEq, Repr, Inhabited

/-- A reply. -/
structure Reply where
  status : Nat
  contentType : Option String := none
  body : List UInt8
  deriving DecidableEq, Repr, Inhabited

/-- The reply reports success. -/
def Reply.isSuccess (r : Reply) : Bool := 200 ≤ r.status && r.status < 300

/-- A header without the spaces and tabs around it. -/
def headerText (header : String) : List Char :=
  let isEdge := fun c => c == ' ' || c == '\t'
  Cut.trimBy isEdge header.toList

/-- What becomes of a request: no connection is made and nothing sent, a reply comes, the connection
ends before the reply begins or inside it, or nothing comes in time. -/
inductive Exchange
  | unreachable
  | reply (r : Reply)
  | closed
  | truncated
  | silent
  deriving DecidableEq, Repr

/-- A way to a server: what becomes of a request in a state of the server, and the state after it. -/
abbrev Link (σ : Type) := Request → σ → Exchange × σ

/-- The way to a server that cannot be reached. -/
def Link.broken {σ : Type} : Link σ := fun _ s => (.unreachable, s)

end SeriesCatalog.Http
