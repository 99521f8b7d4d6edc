/-
Percent encoding, which keeps the delimiters of a URL out of the texts between them. A byte is
written as `%` and two capital hexadecimal digits. Decoding takes every well-formed triple for its
byte, in either case of the digits, and leaves everything else as it is.
-/
import SeriesCatalog.Text.Utf8
import SeriesCatalog.Text.Hex

namespace SeriesCatalog.Percent

/-- A byte as a triple. -/
def triple (b : UInt8) : List Char := ['%', Hex.capital (b.toNat / 16), Hex.capital (b.toNat % 16)]

/-- The text with every character that is not kept written as the triples of its bytes. -/
def encode (keep : Char → Bool) (cs : List Char) : List Char :=
  cs.flatMap fun c => if keep c then [c] else (Utf8.encodeChar c).flatMap triple

/-- The bytes of the text, triples decoded. -/
def decode : List Char → List UInt8
  | '%' :: a :: b :: cs =>
    match Hex.digit? a, Hex.digit? b with
    | some x, some y => UInt8.ofNat (16 * x + y) :: decode cs
    | _, _ => Utf8.encodeChar '%' ++ decode (a :: b :: cs)
  | c :: cs => Utf8.encodeChar c ++ decode cs
  | [] => []

example : encode Char.isAlphanum "a@é".toList = "a%40%C3%A9".toList := by decide
example : decode "a%4g%2f%".toList = "a%4g/%".toList.map fun c => UInt8.ofNat c.toNat := by decide

end SeriesCatalog.Percent
