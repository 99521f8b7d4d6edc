/-
The bodies of requests and replies that are no data sets: a statement to run, and a status with a
code and a message.
-/
import SeriesCatalog.Json.Record
import SeriesCatalog.Text.Utf8

namespace SeriesCatalog

/-- The bytes of a JSON value. -/
def Json.bytes (v : Json) : List UInt8 := Utf8.encode v.text

namespace Wire

/-! ## Statements -/

/-- The body that asks for a statement to be run. -/
def statementBody (sql : String) : List UInt8 := (Json.object [("sql", .string sql)]).bytes

/-- The statement that a body asks for. -/
def statement? (body : List UInt8) : Option String := do
  match ← (← Json.Spelled.ofBytes? body).record? [["sql"]] with
  | [some sql] => sql.text?
  | _ => none

/-! ## Statuses -/

/-- A status as it is sent. -/
structure Status where
  code : Int
  message : String
  deriving DecidableEq, Repr, Inhabited

/-- The code of success. -/
def successCode : Int := 200

/-- The status of success. -/
def Status.success : Status := ⟨successCode, "SUCCESS_STATUS"⟩

/-- The body of a status. -/
def Status.body (s : Status) : List UInt8 :=
  (Json.object [("code", .int s.code), ("message", .string s.message)]).bytes

/-- The status that a body gives. Without a message, or with null for one, the message is empty. -/
def Status.ofBytes? (body : List UInt8) : Option Status := do
  match ← (← Json.Spelled.ofBytes? body).record? [["code"], ["message"]] with
  | [some code, message] =>
    let message ← Json.orDefault (Json.Spelled.orNull? Json.Spelled.text?) none message
    return ⟨← code.word?, message.getD ""⟩
  | _ => none

end Wire

end SeriesCatalog
