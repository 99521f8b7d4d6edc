/-
Base64, in which credentials travel. Three bytes are four characters of the standard alphabet; one
or two bytes at the end are two or three characters filled up with `=`. Decoding accepts exactly
what encoding writes: the filling is required and the bits that it leaves over are zero.
-/
namespace SeriesCatalog.Base64

/-- The 64 characters in the order of their values. -/
def alphabet : List Char := "ABCDEFGHIJKLMNOPQRSTUVWXYZabcdefghijklmnopqrstuvwxyz0123456789+/".toList

/-- The character of a value below 64. -/
def symbol (n : Nat) : Char := alphabet.getD n 'A'

/-- The value of a character. -/
def value? (c : Char) : Option Nat := alphabet.idxOf? c

/-- The characters of the bytes. -/
def encode : List UInt8 → List Char
  | [] => []
  | [a] => [symbol (a.toNat / 4), symbol (a.toNat % 4 * 16), '=', '=']
  | [a, b] =>
    [symbol (a.toNat / 4), symbol (a.toNat % 4 * 16 + b.toNat / 16), symbol (b.toNat % 16 * 4), '=']
  | a :: b :: c :: rest =>
    symbol (a.toNat / 4) :: symbol (a.toNat % 4 * 16 + b.toNat / 16) ::
      symbol (b.toNat % 16 * 4 + c.toNat / 64) :: symbol (c.toNat % 64) :: encode rest

/-- The bytes of four characters; only the last four may be filled up. -/
def quartet (last : Bool) (a b c d : Char) : Option (List UInt8) := do
  let w ← value? a
  let x ← value? b
  if last ∧ c = '=' ∧ d = '=' then
    if x % 16 = 0 then some [.ofNat (w * 4 + x / 16)] else none
  else
    let y ← value? c
    if last ∧ d = '=' then
      if y % 4 = 0 then some [.ofNat (w * 4 + x / 16), .ofNat (x % 16 * 16 + y / 4)] else none
    else
      let z ← value? d
      some [.ofNat (w * 4 + x / 16), .ofNat (x % 16 * 16 + y / 4), .ofNat (y % 4 * 64 + z)]

/-- The bytes that the characters stand for, if they are the encoding of any. -/
def decode? : List Char → Option (List UInt8)
  | [] => some []
  | a :: b :: c :: d :: rest => do
    let first ← quartet rest.isEmpty a b c d
    let others ← decode? rest
    some (first ++ others)
  | _ => none

example : encode [0x72, 0x6f, 0x6f, 0x74, 0x3a] = "cm9vdDo=".toList := by decide
example : decode? "cm9vdDo=".toList = some [0x72, 0x6f, 0x6f, 0x74, 0x3a] := by decide
example : decode? "YTpiYx==".toList = none ∧ decode? "cm9vdDo".toList = none ∧
    decode? "=".toList = none ∧ decode? "YQ==YQ==".toList = none := by decide

end SeriesCatalog.Base64
