/-
Quoted text, as diagnostics show names: between double quotes, with the usual short escapes, and
with a code point in braces for every character that does not show as itself. A list of names stands
in brackets.
-/
import SeriesCatalog.Text.Hidden
import SeriesCatalog.Text.Hex

namespace SeriesCatalog.Quoted

/-- The two-character escape of a character, by its second character. -/
def shortEscape? : Char → Option Char
  | '\x00' => some '0'
  | '\t' => some 't'
  | '\r' => some 'r'
  | '\n' => some 'n'
  | '"' => some '"'
  | '\\' => some '\\'
  | _ => none

/-- A character inside quotes. -/
def encodeChar (c : Char) : List Char :=
  match shortEscape? c with
  | some e => ['\\', e]
  | none =>
    if Text.isHidden c then '\\' :: 'u' :: '{' :: Nat.toDigits 16 c.toNat ++ ['}'] else [c]

/-- The text in quotes. -/
def text (s : String) : String := String.ofList ('"' :: s.toList.flatMap encodeChar ++ ['"'])

/-- The texts in quotes, separated by commas, in brackets. -/
def list (l : List String) : String := "[" ++ ", ".intercalate (l.map text) ++ "]"

example : list ["a\"", "\x1b"] = "[\"a\\\"\", \"\\u\x7b1b\x7d\"]" := by decide +kernel

end SeriesCatalog.Quoted
