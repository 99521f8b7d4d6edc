/-
Addresses of requests, and the targets for which requests ask. Behind `http://` an address names a server,
perhaps with credentials before an `@`, and then a target on it. An authority, which is everything up to
the target, is read from the left, and the first character that may not stand in it decides; whether its
brackets and colons make sense is only then looked at. What follows a `#` is not sent, and counts for
nothing where it is received. A request may ask for a target with or without the server before it.
-/
import SeriesCatalog.Text.Cut

namespace SeriesCatalog.Http

/-- Why a text is no address. -/
inductive AddressFault
  | tooLong
  | longScheme
  | invalidCharacter
  | invalidAuthority
  | missingAuthority
  deriving DecidableEq, Repr

/-- The fault in words. -/
def AddressFault.message : AddressFault → String
  | tooLong => "uri too long"
  | longScheme => "scheme too long"
  | invalidCharacter => "invalid uri character"
  | invalidAuthority => "invalid authority"
  | missingAuthority => "invalid format"

/-- An address. -/
structure Address where
  authority : String
  target : String
  deriving DecidableEq, Repr

/-! ## Authorities -/

/-- The character may stand in an authority and has no meaning there. -/
def isPlain (c : Char) : Bool := c.isAlphanum || "!$&'()*+,-.;=_~".toList.contains c

/-- What counts of the part of an authority that has been read: its colons and whether it holds a
percent sign, in both cases behind the last `@` or `]`, and whether a bracket was opened and closed. -/
structure Authority where
  colons : Nat := 0
  percent : Bool := false
  opened : Bool := false
  closed : Bool := false
  deriving DecidableEq, Repr

namespace Authority

/-- The number of colons that may stand in a row of groups. -/
def maxColons : Nat := 8

/-- One more character. -/
def step (a : Authority) (c : Char) : Except AddressFault Authority :=
  match c with
  | ':' =>
    if a.colons < maxColons then .ok { a with colons := a.colons + 1 }
    else .error .invalidAuthority
  | '[' =>
    if a.percent || a.opened then .error .invalidAuthority
    else .ok { a with opened := true }
  | ']' =>
    if a.opened && !a.closed then .ok { a with colons := 0, percent := false, closed := true }
    else .error .invalidAuthority
  | '@' => .ok { a with colons := 0, percent := false }
  | '%' => .ok { a with percent := true }
  | c => if isPlain c then .ok a else .error .invalidCharacter

/-- What has been read is a whole authority: brackets come in a pair, and behind the credentials stands
at most one colon and no percent sign. -/
def isComplete (a : Authority) : Bool := a.opened == a.closed && a.colons ≤ 1 && !a.percent

end Authority

/-- Checks an authority. It is not empty, and something follows its credentials. -/
def checkAuthority (cs : List Char) : Except AddressFault Unit := do
  let a ← cs.foldlM Authority.step {}
  if !a.isComplete || cs.getLast? == some '@' then throw .invalidAuthority
  if cs.isEmpty then throw .missingAuthority

/-! ## Targets -/

/-- The character may stand in the path of an address. -/
def isPathChar (c : Char) : Bool :=
  0x21 ≤ c.toNat && c != '\x7f' && !("#<>?^".toList.contains c) && c != '\x60'

/-- The character may stand in the query of an address. -/
def isQueryChar (c : Char) : Bool :=
  0x21 ≤ c.toNat && c != '\x7f' && !("\"#<>".toList.contains c)

/-- The target that follows an authority: a path and perhaps a query. A path that is empty is a
slash. -/
def readTarget (cs : List Char) : Except AddressFault String :=
  let cs := cs.takeWhile (· != '#')
  let path := cs.takeWhile (· != '?')
  let query := (cs.dropWhile (· != '?')).drop 1
  if path.all isPathChar && query.all isQueryChar then
    .ok (String.ofList (if path = [] then '/' :: cs else cs))
  else .error .invalidCharacter

/-! ## Addresses -/

/-- What an address begins with. -/
def Address.start : String := "http://"

/-- The greatest number of bytes of an address. -/
def maxAddress : Nat := 65534

/-- The character ends an authority. -/
def endsAuthority (c : Char) : Bool := c == '/' || c == '?' || c == '#'

/-- The address that consists of `http://` and this text. -/
def Address.read (text : String) : Except AddressFault Address := do
  if maxAddress < (Address.start ++ text).utf8ByteSize then throw .tooLong
  let authority := text.toList.takeWhile (!endsAuthority ·)
  checkAuthority authority
  return ⟨String.ofList authority, ← readTarget (text.toList.dropWhile (!endsAuthority ·))⟩

/-- The server that an address names, without credentials. -/
def Address.server (a : Address) : String :=
  match Text.cutLast '@' a.authority.toList with
  | some (_, server) => String.ofList server
  | none => a.authority

example : Address.read "h:1?x#y" = .ok ⟨"h:1", "/?x"⟩ := by rfl
example : Address.read "[::1]:1/a" = .ok ⟨"[::1]:1", "/a"⟩ := by rfl
example : Address.read "%41@h/a" = .ok ⟨"%41@h", "/a"⟩ := by rfl
example : Address.read "::1:1/a" = .error .invalidAuthority := by rfl
example : Address.read "h%20/a" = .error .invalidAuthority := by rfl
example : Address.read "h%20<" = .error .invalidCharacter := by rfl
example : Address.read "?:1/a" = .error .missingAuthority := by rfl
example : Address.read "h:1/a b" = .error .invalidCharacter := by rfl

/-! ## Targets that are asked for -/

/-- The character may stand in the name of a scheme. -/
def isSchemeChar (c : Char) : Bool := c.isAlphanum || c == '+' || c == '-' || c == '.'

/-- The greatest number of characters of the name of a scheme. -/
def maxScheme : Nat := 64

/-- The name of a scheme and what follows the `://` behind it, if a text begins so. -/
def cutScheme? (cs : List Char) : Option (List Char × List Char) :=
  ("://".toList.isPrefixOf? (cs.dropWhile isSchemeChar)).map fun rest => (cs.takeWhile isSchemeChar, rest)

/-- The path of what follows an authority, without its query. -/
def readPath (cs : List Char) : Except AddressFault String := do
  let target ← readTarget cs
  return String.ofList (target.toList.takeWhile (· != '?'))

/-- The path that a request asks for. Its target is a star, or a path with or without a scheme and an
authority before it, or an authority alone, which has no path. -/
def pathOf (target : String) : Except AddressFault String := do
  if maxAddress < target.utf8ByteSize then throw .tooLong
  match target.toList with
  | ['*'] => return target
  | '/' :: cs => readPath ('/' :: cs)
  | cs =>
    match cutScheme? cs with
    | none =>
      checkAuthority cs
      return ""
    | some (scheme, rest) =>
      if maxScheme < scheme.length then throw .longScheme
      checkAuthority (rest.takeWhile (!endsAuthority ·))
      readPath (rest.dropWhile (!endsAuthority ·))

example : pathOf "/ping?x#y" = .ok "/ping" ∧ pathOf "/ping#?x" = .ok "/ping" := ⟨by rfl, by rfl⟩
example : pathOf "http://u@h:1/ping#x" = .ok "/ping" ∧ pathOf "://h?x" = .ok "/" := ⟨by rfl, by rfl⟩
example : pathOf "*" = .ok "*" ∧ pathOf "h:80" = .ok "" := ⟨by rfl, by rfl⟩
example : pathOf "http:///ping" = .error .missingAuthority := by rfl
example : pathOf "h:80/ping" = .error .invalidCharacter := by rfl

end SeriesCatalog.Http
