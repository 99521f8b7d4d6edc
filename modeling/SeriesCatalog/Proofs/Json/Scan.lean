/-
The text of a value scans to the tokens of the value. A word and a numeral end only where something
else begins, so the statement is about a text with something behind it that may follow a value: the
end, a comma or a closing bracket. It is proved by induction on the value, its items and its members.
-/
import SeriesCatalog.Json.Basic
import SeriesCatalog.Proofs.Json.Number

namespace SeriesCatalog.Json

/-! ## Tokens of a value -/

/-- The element that spells a character inside a string. -/
def unitOf (c : Char) : StringUnit :=
  if shortEscape? c = none ∧ c.toNat < 0x20 then .escape c.toNat else .char c

/-- The elements that spell a string. -/
def unitsOf (s : String) : List StringUnit := s.toList.map unitOf

/-- The numeral of a number; for a double it is whatever its text is read as. -/
def Number.numeral : Number → Numeral
  | whole n => wholeNumeral n
  | real x => (numeral? x.text).getD (wholeNumeral 0)

mutual

/-- The tokens of a value. -/
def tokensOf : Json → List Token
  | null => [.null]
  | bool b => [.bool b]
  | number n => [.numeral n.numeral]
  | string s => [.string (unitsOf s)]
  | array items => .openArray :: itemsTokens items ++ [.closeArray]
  | object members => .openObject :: membersTokens members ++ [.closeObject]

/-- The tokens of items with commas between them. -/
def itemsTokens : List Json → List Token
  | [] => []
  | [v] => tokensOf v
  | v :: w :: vs => tokensOf v ++ .comma :: itemsTokens (w :: vs)

/-- The tokens of members with commas between them. -/
def membersTokens : List (String × Json) → List Token
  | [] => []
  | [(k, v)] => .string (unitsOf k) :: .colon :: tokensOf v
  | (k, v) :: m :: ms => .string (unitsOf k) :: .colon :: tokensOf v ++ .comma :: membersTokens (m :: ms)

end

/-! ## Steps -/

variable {done : List Token} {rest : List (Option Char)}

theorem tokensFrom_cons {s s' : Scan} {c : Option Char} {ts : List Token} (h : scanStep s c = some (ts, s')) :
    tokensFrom done s (c :: rest) = tokensFrom (ts.reverse ++ done) s' rest := by
  rw [tokensFrom, h]

/-- What may follow a value: the end, a comma or a closing bracket. -/
def Follows (rest : List (Option Char)) : Prop :=
  ∀ c ∈ rest.head?, c = some ',' ∨ c = some ']' ∨ c = some '}'

theorem follows_comma : Follows (some ',' :: rest) := by simp [Follows]

theorem follows_closeArray : Follows (some ']' :: rest) := by simp [Follows]

theorem follows_closeObject : Follows (some '}' :: rest) := by simp [Follows]

theorem follows_nil : Follows [] := by simp [Follows]

/-- A token that ends where another begins is complete before that one is read. -/
theorem tokensFrom_ended {s : Scan} {t : Token} {c : Char}
    (h : scanStep s (some c) = (scanBetween c).map fun (ts, s) => (t :: ts, s)) :
    tokensFrom done s (some c :: rest) = tokensFrom (t :: done) .between (some c :: rest) := by
  have hbetween : scanStep .between (some c) = scanBetween c := rfl
  rw [tokensFrom, tokensFrom, h, hbetween]
  cases scanBetween c with
  | none => rfl
  | some next => simp

/-- A complete word is a token where something follows it. -/
theorem tokensFrom_word (letters : List Char) {t : Token} (ht : wordToken? letters.reverse = some t)
    (h : Follows rest) : tokensFrom done (.word letters) rest = tokensFrom (t :: done) .between rest := by
  cases rest with
  | nil => simp [tokensFrom, scanEnd, ht]
  | cons c rest =>
    obtain ⟨d, rfl, hd⟩ : ∃ d, c = some d ∧ d.isLower = false := by
      rcases h c rfl with rfl | rfl | rfl <;> exact ⟨_, rfl, by decide⟩
    refine tokensFrom_ended ?_
    simp only [scanStep, hd, ht]
    cases scanBetween d <;> rfl

/-- A complete numeral is a token where something follows it. -/
theorem tokensFrom_numeral {chars : List Char} {n : Numeral} (hn : numeral? chars.reverse = some n)
    (h : Follows rest) : tokensFrom done (.numeral chars) rest = tokensFrom (.numeral n :: done) .between rest := by
  cases rest with
  | nil => simp [tokensFrom, scanEnd, hn]
  | cons c rest =>
    obtain ⟨d, rfl, hd⟩ : ∃ d, c = some d ∧ isNumeric d = false := by
      rcases h c rfl with rfl | rfl | rfl <;> exact ⟨_, rfl, by decide⟩
    refine tokensFrom_ended ?_
    simp only [scanStep, hd, hn]
    cases scanBetween d <;> rfl

/-- The characters of a numeral are collected. -/
theorem tokensFrom_numeric {cs : List Char} (h : ∀ c ∈ cs, isNumeric c = true) (chars : List Char) :
    tokensFrom done (.numeral chars) (cs.map some ++ rest) = tokensFrom done (.numeral (cs.reverse ++ chars)) rest := by
  induction cs generalizing chars with
  | nil => rfl
  | cons c cs ih =>
    have hstep : scanStep (.numeral chars) (some c) = some ([], .numeral (c :: chars)) := by
      simp [scanStep, h c (List.mem_cons_self ..)]
    rw [List.map_cons, List.cons_append, tokensFrom_cons hstep, List.reverse_nil, List.nil_append,
      ih fun d hd => h d (List.mem_cons_of_mem _ hd)]
    simp

/-! ## Strings -/

theorem escaped?_of_shortEscape? {c e : Char} (h : shortEscape? c = some e) : escaped? e = some c ∧ e ≠ 'u' := by
  unfold shortEscape? at h
  split at h <;> cases h <;> decide

theorem ne_of_shortEscape?_eq_none {c : Char} (h : shortEscape? c = none) : c ≠ '"' ∧ c ≠ '\\' := by
  constructor <;> rintro rfl <;> cases h

/-- Four hexadecimal digits spell a unit. -/
theorem tokensFrom_unicode {us : List StringUnit} {n : Nat} (h : n < 0x100) :
    tokensFrom done (.unicode us 0 4)
      (some '0' :: some '0' :: some (Hex.small (n / 16)) :: some (Hex.small (n % 16)) :: rest) =
      tokensFrom done (.string (.escape n :: us)) rest := by
  have hhigh : Hex.digit? (Hex.small (n / 16)) = some (n / 16) := Hex.digit?_small _ (by omega)
  have hlow : Hex.digit? (Hex.small (n % 16)) = some (n % 16) := Hex.digit?_small _ (by omega)
  have hzero : Hex.digit? '0' = some 0 := rfl
  have hsum : n / 16 * 16 + n % 16 = n := by omega
  simp [tokensFrom, scanStep, hhigh, hlow, hzero, hsum]

/-- The text of a character inside a string scans to the element that spells it. -/
theorem tokensFrom_escapeChar (us : List StringUnit) (c : Char) :
    tokensFrom done (.string us) ((escapeChar c).map some ++ rest) =
      tokensFrom done (.string (unitOf c :: us)) rest := by
  unfold escapeChar unitOf
  cases hs : shortEscape? c with
  | some e =>
    obtain ⟨he, hu⟩ := escaped?_of_shortEscape? hs
    simp [tokensFrom, scanStep, he, hu]
  | none =>
    obtain ⟨hquote, hslash⟩ := ne_of_shortEscape?_eq_none hs
    dsimp only
    by_cases hc : c.toNat < 0x20
    -- a control character without a short form is spelled by its code
    · rw [if_pos hc, if_pos ⟨rfl, hc⟩, ← tokensFrom_unicode (n := c.toNat) (by omega)]
      simp [tokensFrom, scanStep]
    · rw [if_neg hc, if_neg (by simp [hc])]
      simp [tokensFrom, scanStep, hquote, hslash, hc]

theorem tokensFrom_escapeChars (us : List StringUnit) (cs : List Char) :
    tokensFrom done (.string us) ((cs.flatMap escapeChar).map some ++ rest) =
      tokensFrom done (.string ((cs.map unitOf).reverse ++ us)) rest := by
  induction cs generalizing us with
  | nil => rfl
  | cons c cs ih =>
    rw [List.flatMap_cons, List.map_append, List.append_assoc, tokensFrom_escapeChar, ih]
    simp

/-- The text of a string scans to one token. -/
theorem tokensFrom_stringText (s : String) :
    tokensFrom done .between ((stringText s).map some ++ rest) =
      tokensFrom (.string (unitsOf s) :: done) .between rest := by
  have hopen : scanStep .between (some '"') = some ([], .string []) := rfl
  have hclose : scanStep (.string (s.toList.map unitOf).reverse) (some '"') =
      some ([.string (unitsOf s)], .between) := by
    simp [scanStep, unitsOf]
  simp only [stringText, List.cons_append, List.map_cons, List.map_append, List.append_assoc, List.map_nil,
    List.nil_append]
  rw [tokensFrom_cons hopen, tokensFrom_escapeChars, List.append_nil, tokensFrom_cons hclose]
  rfl

/-! ## Values -/

/-- The number is a whole number of 64 bits. -/
def Number.IsWord : Number → Prop
  | whole n => Json.IsWord n
  | real _ => False

mutual

/-- The value nests at most so many levels deep, and its numbers are whole numbers of 64 bits. -/
def Fits (room : Nat) : Json → Prop
  | null | bool _ | string _ => True
  | number n => n.IsWord
  | array items => 0 < room ∧ FitsItems (room - 1) items
  | object members => 0 < room ∧ FitsMembers (room - 1) members

/-- All items fit. -/
def FitsItems (room : Nat) : List Json → Prop
  | [] => True
  | v :: vs => Fits room v ∧ FitsItems room vs

/-- The values of all members fit. -/
def FitsMembers (room : Nat) : List (String × Json) → Prop
  | [] => True
  | (_, v) :: ms => Fits room v ∧ FitsMembers room ms

end

theorem isNumeric_of_isDigit {c : Char} (h : c.isDigit = true) : isNumeric c = true := by simp [isNumeric, h]

theorem isNumeric_of_mem_wholeText {n : Int} {c : Char} (h : c ∈ wholeText n) : isNumeric c = true := by
  unfold wholeText at h
  split at h
  · rcases List.mem_cons.1 h with rfl | h
    · rfl
    · exact isNumeric_of_isDigit (isDigit_of_mem_toDigits h)
  · exact isNumeric_of_isDigit (isDigit_of_mem_toDigits h)

/-- The text of a whole number begins with a character that begins a numeral. -/
theorem wholeText_eq_cons (n : Int) :
    ∃ c cs, wholeText n = c :: cs ∧ scanStep .between (some c) = some ([], .numeral [c]) := by
  unfold wholeText
  split
  · exact ⟨'-', _, rfl, rfl⟩
  · cases hd : Nat.toDigits 10 n.natAbs with
    | nil => exact absurd hd Nat.toDigits_ne_nil
    | cons c cs =>
      -- a digit begins a numeral, since no blank and no mark is a digit
      have hc : c.isDigit = true := isDigit_of_mem_toDigits (n := n.natAbs) (hd ▸ List.mem_cons_self ..)
      have hspace : isSpace c = false := by
        unfold isSpace
        simp only [Bool.or_eq_false_iff, beq_eq_false_iff_ne]
        refine ⟨⟨⟨?_, ?_⟩, ?_⟩, ?_⟩ <;> rintro rfl <;> cases hc
      have hquote : c ≠ '"' := by rintro rfl; cases hc
      exact ⟨c, cs, rfl, by simp [scanStep, scanBetween, hspace, hquote, hc]⟩

theorem tokensFrom_wholeText (n : Int) (h : Follows rest) :
    tokensFrom done .between ((wholeText n).map some ++ rest) =
      tokensFrom (.numeral (wholeNumeral n) :: done) .between rest := by
  obtain ⟨c, cs, htext, hstep⟩ := wholeText_eq_cons n
  have hcs : ∀ d ∈ cs, isNumeric d = true := fun d hd =>
    isNumeric_of_mem_wholeText (n := n) (htext ▸ List.mem_cons_of_mem _ hd)
  have hnumeral : numeral? (cs.reverse ++ [c]).reverse = some (wholeNumeral n) := by
    rw [← numeral?_wholeText, htext]
    simp
  rw [htext, List.map_cons, List.cons_append, tokensFrom_cons hstep, List.reverse_nil, List.nil_append,
    tokensFrom_numeric hcs, tokensFrom_numeral hnumeral h]

mutual

/-- The text of a value scans to its tokens. -/
theorem tokensFrom_text {room : Nat} {done : List Token} {rest : List (Option Char)} :
    ∀ v : Json, Fits room v → Follows rest →
      tokensFrom done .between (v.text.map some ++ rest) = tokensFrom ((tokensOf v).reverse ++ done) .between rest
  | .null, _, hrest => tokensFrom_word "llun".toList rfl hrest
  | .bool true, _, hrest => tokensFrom_word "eurt".toList rfl hrest
  | .bool false, _, hrest => tokensFrom_word "eslaf".toList rfl hrest
  | .number (.whole n), _, hrest => tokensFrom_wholeText n hrest
  | .number (.real x), hfits, _ => nomatch hfits
  | .string s, _, _ => tokensFrom_stringText s
  | .array items, hfits, _ => by
    have hopen : scanStep .between (some '[') = some ([.openArray], .between) := rfl
    have hclose : scanStep .between (some ']') = some ([.closeArray], .between) := rfl
    simp only [text, tokensOf, List.cons_append, List.map_cons, List.map_append, List.append_assoc]
    rw [tokensFrom_cons hopen, tokensFrom_itemsText items hfits.2 follows_closeArray]
    simp [tokensFrom_cons hclose]
  | .object members, hfits, _ => by
    have hopen : scanStep .between (some '{') = some ([.openObject], .between) := rfl
    have hclose : scanStep .between (some '}') = some ([.closeObject], .between) := rfl
    simp only [text, tokensOf, List.cons_append, List.map_cons, List.map_append, List.append_assoc]
    rw [tokensFrom_cons hopen, tokensFrom_membersText members hfits.2 follows_closeObject]
    simp [tokensFrom_cons hclose]

theorem tokensFrom_itemsText {room : Nat} {done : List Token} {rest : List (Option Char)} :
    ∀ vs : List Json, FitsItems room vs → Follows rest →
      tokensFrom done .between ((itemsText vs).map some ++ rest) =
        tokensFrom ((itemsTokens vs).reverse ++ done) .between rest
  | [], _, _ => rfl
  | [v], hfits, hrest => tokensFrom_text v hfits.1 hrest
  | v :: w :: vs, hfits, hrest => by
    have hcomma : scanStep .between (some ',') = some ([.comma], .between) := rfl
    simp only [itemsText, itemsTokens, List.map_append, List.map_cons, List.append_assoc, List.cons_append]
    rw [tokensFrom_text v hfits.1 follows_comma, tokensFrom_cons hcomma,
      tokensFrom_itemsText (w :: vs) hfits.2 hrest]
    simp

theorem tokensFrom_membersText {room : Nat} {done : List Token} {rest : List (Option Char)} :
    ∀ ms : List (String × Json), FitsMembers room ms → Follows rest →
      tokensFrom done .between ((membersText ms).map some ++ rest) =
        tokensFrom ((membersTokens ms).reverse ++ done) .between rest
  | [], _, _ => rfl
  | [(k, v)], hfits, hrest => by
    have hcolon : scanStep .between (some ':') = some ([.colon], .between) := rfl
    simp only [membersText, membersTokens, List.map_append, List.map_cons, List.append_assoc, List.cons_append]
    rw [tokensFrom_stringText, tokensFrom_cons hcolon, tokensFrom_text v hfits.1 hrest]
    simp
  | (k, v) :: m :: ms, hfits, hrest => by
    have hcolon : scanStep .between (some ':') = some ([.colon], .between) := rfl
    have hcomma : scanStep .between (some ',') = some ([.comma], .between) := rfl
    simp only [membersText, membersTokens, List.map_append, List.map_cons, List.append_assoc, List.cons_append]
    rw [tokensFrom_stringText, tokensFrom_cons hcolon, tokensFrom_text v hfits.1 follows_comma,
      tokensFrom_cons hcomma, tokensFrom_membersText (m :: ms) hfits.2 hrest]
    simp

end

/-- The tokens of the text of a value are those of the value. -/
theorem tokens_text {room : Nat} {v : Json} (h : Fits room v) : tokens (v.text.map some) = some (tokensOf v) := by
  have hscan : tokensFrom [] .between (v.text.map some ++ []) = tokensFrom ((tokensOf v).reverse ++ []) .between [] :=
    tokensFrom_text v h follows_nil
  rw [List.append_nil, List.append_nil] at hscan
  rw [tokens, hscan]
  simp [tokensFrom, scanEnd]

end SeriesCatalog.Json
