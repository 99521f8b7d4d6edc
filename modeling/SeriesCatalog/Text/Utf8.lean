/-
Text as bytes and back. Every character is one to four bytes. Reading goes byte by byte; where bytes
form no character, the longest beginning of one that they share is set aside as malformed, and
reading goes on behind it. Strict decoding reports the first such place, lenient decoding puts a
replacement character there. Encoded text reads back as it was.
-/
namespace SeriesCatalog.Utf8

/-! ## Encoding -/

/-- The bytes of a character. -/
def encodeChar (c : Char) : List UInt8 :=
  let n := c.toNat
  if n < 0x80 then [.ofNat n]
  else if n < 0x800 then [.ofNat (0xC0 + n / 64), .ofNat (0x80 + n % 64)]
  else if n < 0x10000 then
    [.ofNat (0xE0 + n / 4096), .ofNat (0x80 + n / 64 % 64), .ofNat (0x80 + n % 64)]
  else
    [.ofNat (0xF0 + n / 262144), .ofNat (0x80 + n / 4096 % 64), .ofNat (0x80 + n / 64 % 64),
      .ofNat (0x80 + n % 64)]

/-- The bytes of a text. -/
def encode (cs : List Char) : List UInt8 := cs.flatMap encodeChar

/-! ## Reading bytes -/

/-- A character that has begun: how many bytes are missing, between which bounds the next one lies,
the value so far and the number of bytes taken. -/
structure Begun where
  missing : Nat
  low : Nat
  high : Nat
  value : Nat
  taken : Nat
  deriving DecidableEq, Repr

/-- What the bytes hold at one place: a character, a malformed sequence of some length, or the
beginning of a character that the end cuts off. -/
inductive Piece
  | char (c : Char)
  | malformed (length : Nat)
  | cutOff (length : Nat)
  deriving DecidableEq, Repr

/-- What a first byte begins; none if no character begins with it. -/
def begin? (b : Nat) : Option Begun :=
  if 0xC2 ≤ b ∧ b ≤ 0xDF then some ⟨1, 0x80, 0xBF, b - 0xC0, 1⟩
  else if b = 0xE0 then some ⟨2, 0xA0, 0xBF, 0, 1⟩
  else if b = 0xED then some ⟨2, 0x80, 0x9F, 0xD, 1⟩
  else if 0xE1 ≤ b ∧ b ≤ 0xEF then some ⟨2, 0x80, 0xBF, b - 0xE0, 1⟩
  else if b = 0xF0 then some ⟨3, 0x90, 0xBF, 0, 1⟩
  else if 0xF1 ≤ b ∧ b ≤ 0xF3 then some ⟨3, 0x80, 0xBF, b - 0xF0, 1⟩
  else if b = 0xF4 then some ⟨3, 0x80, 0x8F, 4, 1⟩
  else none

/-- The bytes read as pieces, with a character begun or not. -/
def piecesFrom : Option Begun → List UInt8 → List Piece
  | none, [] => []
  | some s, [] => [.cutOff s.taken]
  | begun, b :: bs =>
    let b := b.toNat
    match begun with
    | some s =>
      if s.low ≤ b ∧ b ≤ s.high then
        let value := s.value * 64 + (b - 0x80)
        if s.missing = 1 then .char (Char.ofNat value) :: piecesFrom none bs
        else piecesFrom (some ⟨s.missing - 1, 0x80, 0xBF, value, s.taken + 1⟩) bs
      else if b < 0x80 then .malformed s.taken :: .char (Char.ofNat b) :: piecesFrom none bs
      else
        match begin? b with
        | some s' => .malformed s.taken :: piecesFrom (some s') bs
        | none => .malformed s.taken :: .malformed 1 :: piecesFrom none bs
    | none =>
      if b < 0x80 then .char (Char.ofNat b) :: piecesFrom none bs
      else
        match begin? b with
        | some s' => piecesFrom (some s') bs
        | none => .malformed 1 :: piecesFrom none bs

/-- The bytes read as pieces. -/
def pieces (bs : List UInt8) : List Piece := piecesFrom none bs

/-! ## Decoding -/

/-- Where and how bytes stop being text: the index of the first byte concerned, and the number of
malformed bytes unless the end cuts a character off. -/
structure Fault where
  index : Nat
  length : Option Nat
  deriving DecidableEq, Repr

/-- The fault in words. -/
def Fault.message (f : Fault) : String :=
  match f.length with
  | some n => "invalid utf-8 sequence of " ++ toString n ++ " bytes from index " ++ toString f.index
  | none => "incomplete utf-8 byte sequence from index " ++ toString f.index

/-- The characters of the pieces that begin at this index, up to the first fault. -/
def textFrom (index : Nat) : List Piece → Except Fault (List Char)
  | [] => .ok []
  | .char c :: ps => (c :: ·) <$> textFrom (index + (encodeChar c).length) ps
  | .malformed n :: _ => .error ⟨index, some n⟩
  | .cutOff _ :: _ => .error ⟨index, none⟩

/-- The text that the bytes encode. -/
def decode (bs : List UInt8) : Except Fault (List Char) := textFrom 0 (pieces bs)

/-- The character that stands for bytes that are no text. -/
def replacement : Char := '\ufffd'

/-- The character at one place of a lenient decoding. -/
def Piece.shown : Piece → Char
  | char c => c
  | malformed _ | cutOff _ => replacement

/-- The text that the bytes encode, with one replacement character for every malformed sequence. -/
def decodeLenient (bs : List UInt8) : List Char := (pieces bs).map Piece.shown

/-- The character at one place, if there is one. -/
def Piece.char? : Piece → Option Char
  | char c => some c
  | malformed _ | cutOff _ => none

example : decode [0xC3, 0xA9] = .ok ['é'] := rfl
example : decode [0x61, 0xFF] = .error ⟨1, some 1⟩ := rfl
example : decode [0xE2, 0x82] = .error ⟨0, none⟩ := rfl
example : decode [0xE2, 0x82, 0x41] = .error ⟨0, some 2⟩ := rfl
example : decodeLenient [0xF0, 0x9F, 0x98, 0x41, 0xC0] = [replacement, 'A', replacement] := by decide

end SeriesCatalog.Utf8
