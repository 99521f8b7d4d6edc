/-
The tokens of a TOML text. Comments leave none. A string is one token, with its escapes resolved and,
if it runs over several lines, with the line ends of its text. Blanks and line ends are tokens of
their own, because what they part does not belong together.
-/
import SeriesCatalog.Text.Hex

namespace SeriesCatalog.Toml

/-- A token. -/
inductive Token
  | word (cs : List Char)
  | sign (c : Char)
  | gap (cs : List Char)
  | newline
  | string (cs : List Char) (manyLines : Bool)
  deriving DecidableEq, Repr

/-! ## Characters -/

/-- The text with every carriage return and line feed made a line feed. A carriage return that stands
alone and every other control character but the tab occur nowhere in a TOML text. -/
def normalized? : List Char → Option (List Char)
  | '\r' :: '\n' :: cs => ('\n' :: ·) <$> normalized? cs
  | c :: cs =>
    if c = '\t' ∨ c = '\n' ∨ (0x20 ≤ c.toNat ∧ c.toNat ≠ 0x7F) then (c :: ·) <$> normalized? cs
    else none
  | [] => some []

/-- The text without the mark that may open it. -/
def withoutMark : List Char → List Char
  | '\ufeff' :: cs => cs
  | cs => cs

/-- A blank inside a line. -/
def isGap (c : Char) : Bool := c == ' ' || c == '\t'

/-- A character of which unquoted keys and most values are made. -/
def isWord (c : Char) : Bool := c.isAlphanum || c == '-' || c == '_'

/-- A character that is a token by itself. -/
def isSign (c : Char) : Bool := ['.', '+', ':', '=', ',', '[', ']', '{', '}'].contains c

/-- The character that a short escape stands for. -/
def escaped? : Char → Option Char
  | '"' => some '"'
  | '\\' => some '\\'
  | 'b' => some '\x08'
  | 'f' => some '\x0c'
  | 'n' => some '\n'
  | 'r' => some '\r'
  | 't' => some '\t'
  | _ => none

/-- The character with a code point, unless that is half of a surrogate pair or out of range. -/
def codePoint? (n : Nat) : Option Char := if n.isValidChar then some (Char.ofNat n) else none

/-! ## Scanning -/

/-- Where the scanner stands. Text of a token under way is kept in reverse.

`opening q n` follows `n` quotes that may still become three; `quoted` is inside a string on one
line, `blockStart` right behind three opening quotes, and `block` inside a string of several lines,
behind so many quotes in a row. `escape` and `unicode` are inside an escape of either kind of string,
and `fold` is between a backslash at the end of a line and the next text. -/
inductive Scan
  | between
  | word (cs : List Char)
  | gap (cs : List Char)
  | comment
  | opening (quote : Char) (count : Nat)
  | quoted (quote : Char) (cs : List Char)
  | blockStart (quote : Char)
  | block (quote : Char) (cs : List Char) (quotes : Nat)
  | escape (manyLines : Bool) (cs : List Char)
  | unicode (manyLines : Bool) (cs : List Char) (value missing : Nat)
  | fold (cs : List Char) (lineEnded : Bool)
  deriving DecidableEq, Repr

/-- The quotes after which escapes are resolved. -/
def isBasic (quote : Char) : Bool := quote == '"'

/-- Back into the string that an escape belongs to. -/
def resume (manyLines : Bool) (cs : List Char) : Scan :=
  if manyLines then .block '"' cs 0 else .quoted '"' cs

/-- A string of several lines that ends behind so many quotes: three close it, the others belong to
its text. -/
def blockToken (quote : Char) (cs : List Char) (quotes : Nat) : Token :=
  .string (cs.reverse ++ List.replicate (quotes - 3) quote) true

/-- One character between tokens: the tokens it completes and the state after it. -/
def scanBetween (c : Char) : Option (List Token × Scan) :=
  if c = '\n' then some ([.newline], .between)
  else if isGap c then some ([], .gap [c])
  else if isWord c then some ([], .word [c])
  else if isSign c then some ([.sign c], .between)
  else if c = '"' ∨ c = '\'' then some ([], .opening c 1)
  else if c = '#' then some ([], .comment)
  else none

/-- `scanBetween` behind a token that has just been completed. -/
def scanAfter (t : Token) (c : Char) : Option (List Token × Scan) :=
  (scanBetween c).map fun (ts, s) => (t :: ts, s)

/-- One character of a string on one line. -/
def scanQuoted (quote : Char) (cs : List Char) (c : Char) : Option (List Token × Scan) :=
  if c = quote then some ([.string cs.reverse false], .between)
  else if c = '\n' then none
  else if c = '\\' ∧ isBasic quote then some ([], .escape false cs)
  else some ([], .quoted quote (c :: cs))

/-- One character of a string of several lines. Of five quotes in a row the first two belong to the
text. -/
def scanBlock (quote : Char) (cs : List Char) (quotes : Nat) (c : Char) :
    Option (List Token × Scan) :=
  if c = quote then
    if quotes = 4 then some ([blockToken quote cs 5], .between)
    else some ([], .block quote cs (quotes + 1))
  else if 3 ≤ quotes then scanAfter (blockToken quote cs quotes) c
  else
    let cs := List.replicate quotes quote ++ cs
    if c = '\\' ∧ isBasic quote then some ([], .escape true cs) else some ([], .block quote (c :: cs) 0)

/-- One character: the tokens it completes and the state after it. -/
def scanStep : Scan → Char → Option (List Token × Scan)
  | .between, c => scanBetween c
  | .word cs, c =>
    if isWord c then some ([], .word (c :: cs)) else scanAfter (.word cs.reverse) c
  | .gap cs, c => if isGap c then some ([], .gap (c :: cs)) else scanAfter (.gap cs.reverse) c
  | .comment, c => if c = '\n' then some ([.newline], .between) else some ([], .comment)
  | .opening quote count, c =>
    if c = quote then
      if count = 1 then some ([], .opening quote 2) else some ([], .blockStart quote)
    else if count = 1 then scanQuoted quote [] c
    else scanAfter (.string [] false) c
  | .quoted quote cs, c => scanQuoted quote cs c
  | .blockStart quote, c =>
    if c = '\n' then some ([], .block quote [] 0) else scanBlock quote [] 0 c
  | .block quote cs quotes, c => scanBlock quote cs quotes c
  | .escape manyLines cs, c =>
    if c = 'u' then some ([], .unicode manyLines cs 0 4)
    else if c = 'U' then some ([], .unicode manyLines cs 0 8)
    else if manyLines ∧ (isGap c ∨ c = '\n') then some ([], .fold cs (c == '\n'))
    else (escaped? c).map fun e => ([], resume manyLines (e :: cs))
  | .unicode manyLines cs value missing, c => do
    let d ← Hex.digit? c
    let value := value * 16 + d
    if missing = 1 then return ([], resume manyLines ((← codePoint? value) :: cs))
    else return ([], .unicode manyLines cs value (missing - 1))
  | .fold cs lineEnded, c =>
    if c = '\n' then some ([], .fold cs true)
    else if isGap c then some ([], .fold cs lineEnded)
    else if lineEnded then scanBlock '"' cs 0 c
    else none

/-- The tokens that the end of the text completes. -/
def scanEnd : Scan → Option (List Token)
  | .between | .comment => some []
  | .word cs => some [.word cs.reverse]
  | .gap cs => some [.gap cs.reverse]
  | .opening _ count => if count = 2 then some [.string [] false] else none
  | .block quote cs quotes => if 3 ≤ quotes then some [blockToken quote cs quotes] else none
  | .quoted .. | .blockStart _ | .escape .. | .unicode .. | .fold .. => none

/-- The tokens from a state on, behind those already found, which are kept in reverse. -/
def tokensFrom (done : List Token) : Scan → List Char → Option (List Token)
  | s, [] => (scanEnd s).map fun ts => done.reverse ++ ts
  | s, c :: cs =>
    match scanStep s c with
    | none => none
    | some (ts, s) => tokensFrom (ts.reverse ++ done) s cs

/-- The tokens of a text. -/
def tokens (cs : List Char) : Option (List Token) :=
  (normalized? (withoutMark cs)).bind (tokensFrom [] .between)

example : tokens "a.b = \"x\\u0041\" # c".toList =
    some [.word ['a'], .sign '.', .word ['b'], .gap [' '], .sign '=', .gap [' '],
      .string ['x', 'A'] false, .gap [' ']] := by decide
example : tokens "\"\"\"\na\"\"\\\r\n  b\"\"\"\"".toList =
    some [.string "a\"\"b\"".toList true] := by decide
example : tokens "'''''".toList = none := by decide

end SeriesCatalog.Toml
