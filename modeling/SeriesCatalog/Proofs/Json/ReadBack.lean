/-
A value reads back from its text. The tokens of a value build up its spelled form, whatever is open
around it, and the spelled form evaluates to the value again, except that the members of objects
come out in ascending order. Both go by induction on the value, its items and its members; for the
items and members that are built up the statement carries along those that are done.
-/
import SeriesCatalog.Wire
import SeriesCatalog.Proofs.Json.Scan
import SeriesCatalog.Proofs.Text.Utf8

namespace SeriesCatalog.Json

/-! ## Building up -/

mutual

/-- The form of a value before it is evaluated. -/
def spelled : Json → Spelled
  | null => .null
  | bool b => .bool b
  | number n => .numeral n.numeral
  | string s => .string (unitsOf s)
  | array items => .array (spelledItems items)
  | object members => .object (spelledMembers members)

/-- The forms of items. -/
def spelledItems : List Json → List Spelled
  | [] => []
  | v :: vs => spelled v :: spelledItems vs

/-- The forms of members. -/
def spelledMembers : List (String × Json) → List (List StringUnit × Spelled)
  | [] => []
  | (k, v) :: ms => (unitsOf k, spelled v) :: spelledMembers ms

end

mutual

/-- The tokens of a value build up its form. -/
theorem build_tokensOf {frames : List Frame} {b : Bool} : ∀ v : Json,
    (tokensOf v).foldlM Build.step (.value frames b) = some (.complete v.spelled frames)
  | .null | .bool _ | .number _ | .string _ | .array [] | .object [] => rfl
  | .array (v :: vs) => by
    rw [tokensOf, List.cons_append, List.foldlM_cons]
    exact build_itemsTokens (v :: vs) (List.cons_ne_nil _ _)
  | .object (m :: ms) => by
    rw [tokensOf, List.cons_append, List.foldlM_cons]
    exact build_membersTokens (m :: ms) (List.cons_ne_nil _ _)

theorem build_itemsTokens {frames : List Frame} {done : List Spelled} {b : Bool} : ∀ vs : List Json, vs ≠ [] →
    (itemsTokens vs ++ [Token.closeArray]).foldlM Build.step (.value (.array done :: frames) b) =
      some (.complete (.array (done.reverse ++ spelledItems vs)) frames)
  | [], hne => absurd rfl hne
  | [v], _ => by
    rw [itemsTokens, List.foldlM_append, build_tokensOf v]
    simp [Build.step, spelledItems]
  | v :: w :: vs, _ => by
    rw [itemsTokens, List.append_assoc, List.foldlM_append, build_tokensOf v]
    -- the comma takes the item to those that are done
    show (itemsTokens (w :: vs) ++ [Token.closeArray]).foldlM Build.step
      (.value (.array (v.spelled :: done) :: frames) false) = _
    rw [build_itemsTokens (w :: vs) (List.cons_ne_nil _ _)]
    simp [spelledItems]

theorem build_membersTokens {frames : List Frame} {done : List (List StringUnit × Spelled)} {b : Bool} :
    ∀ ms : List (String × Json), ms ≠ [] →
      (membersTokens ms ++ [Token.closeObject]).foldlM Build.step (.key done frames b) =
        some (.complete (.object (done.reverse ++ spelledMembers ms)) frames)
  | [], hne => absurd rfl hne
  | [(k, v)], _ => by
    rw [membersTokens, List.cons_append, List.cons_append, List.foldlM_cons]
    show (tokensOf v ++ [Token.closeObject]).foldlM Build.step (.value (.object done (unitsOf k) :: frames) false) = _
    rw [List.foldlM_append, build_tokensOf v]
    simp [Build.step, spelledMembers]
  | (k, v) :: m :: ms, _ => by
    rw [membersTokens, List.append_assoc, List.cons_append, List.cons_append, List.foldlM_cons]
    show (tokensOf v ++ (Token.comma :: membersTokens (m :: ms) ++ [Token.closeObject])).foldlM Build.step
      (.value (.object done (unitsOf k) :: frames) false) = _
    rw [List.foldlM_append, build_tokensOf v]
    -- the comma takes the member to those that are done
    show (membersTokens (m :: ms) ++ [Token.closeObject]).foldlM Build.step
      (.key ((unitsOf k, v.spelled) :: done) frames false) = _
    rw [build_membersTokens (m :: ms) (List.cons_ne_nil _ _)]
    simp [spelledMembers]

end

/-- The text of a value is taken apart into its form. -/
theorem Spelled.ofBytes?_bytes (room : Nat) {v : Json} (h : Fits room v) :
    Spelled.ofBytes? v.bytes = some v.spelled := by
  unfold Spelled.ofBytes? Spelled.read? Json.bytes
  rw [Utf8.pieces_encode, List.map_map]
  show (tokens (v.text.map some)).bind Spelled.ofTokens? = _
  rw [tokens_text h, Option.bind_some, Spelled.ofTokens?, build_tokensOf]

/-! ## Strings -/

/-- A unit that is no surrogate is a character by itself. -/
theorem unitsText?_escape {n : Nat} (h : n < 0xD800) (us : List StringUnit) :
    unitsText? (.escape n :: us) = (Char.ofNat n :: ·) <$> unitsText? us := by
  have hhigh : ¬ (0xD800 ≤ n ∧ n ≤ 0xDBFF) := by omega
  have hlow : ¬ (0xDC00 ≤ n ∧ n ≤ 0xDFFF) := by omega
  have hnone : ¬ (0xD800 ≤ n ∧ n ≤ 0xDFFF) := by omega
  cases us with
  | nil => simp [unitsText?, hnone]
  | cons u us =>
    cases u with
    | escape m => rw [unitsText?, if_neg hhigh, if_neg hlow]
    | char c => simp [unitsText?, hnone]
    | hole => simp [unitsText?, hnone]

/-- The elements that spell a string stand for it. -/
theorem unitsText?_map_unitOf (cs : List Char) : unitsText? (cs.map unitOf) = some cs := by
  induction cs with
  | nil => rfl
  | cons c cs ih =>
    rw [List.map_cons, unitOf]
    split
    · rename_i h
      rw [unitsText?_escape (by omega), ih]
      simp
    · rw [unitsText?, ih]
      rfl

@[simp] theorem string?_unitsOf (s : String) : string? (unitsOf s) = some s := by
  rw [string?, unitsOf, unitsText?_map_unitOf]
  simp

/-! ## Evaluating -/

mutual

/-- The value with the members of its objects in ascending order. -/
def sorted : Json → Json
  | array items => .array (sortedItems items)
  | object members => .object (Ascending.ofList (·.1) (sortedMembers members))
  | v => v

/-- Every item so. -/
def sortedItems : List Json → List Json
  | [] => []
  | v :: vs => sorted v :: sortedItems vs

/-- The value of every member so. -/
def sortedMembers : List (String × Json) → List (String × Json)
  | [] => []
  | (k, v) :: ms => (k, sorted v) :: sortedMembers ms

end

mutual

/-- The form of a value evaluates to the value. -/
theorem evaluate_spelled : ∀ (room : Nat) (v : Json), Fits room v → evaluate room v.spelled = some v.sorted
  | _, .null, _ | _, .bool _, _ => rfl
  | _, .number (.whole n), h => by
    rw [spelled, evaluate, Number.numeral, number?_wholeNumeral h]
    rfl
  | _, .number (.real x), h => nomatch h
  | _, .string s, _ => by
    rw [spelled, evaluate, string?_unitsOf]
    rfl
  | 0, .array _, h | 0, .object _, h => absurd h.1 (lt_irrefl 0)
  | room + 1, .array items, h => by
    rw [spelled, evaluate, evaluateItems_spelledItems room items h.2]
    rfl
  | room + 1, .object members, h => by
    rw [spelled, evaluate, evaluateMembers_spelledMembers room members h.2]
    rfl

theorem evaluateItems_spelledItems : ∀ (room : Nat) (vs : List Json), FitsItems room vs →
    evaluateItems room (spelledItems vs) = some (sortedItems vs)
  | _, [], _ => rfl
  | room, v :: vs, h => by
    rw [spelledItems, evaluateItems, evaluate_spelled room v h.1, evaluateItems_spelledItems room vs h.2]
    rfl

theorem evaluateMembers_spelledMembers : ∀ (room : Nat) (ms : List (String × Json)), FitsMembers room ms →
    evaluateMembers room (spelledMembers ms) = some (sortedMembers ms)
  | _, [], _ => rfl
  | room, (k, v) :: ms, h => by
    rw [spelledMembers, evaluateMembers, string?_unitsOf, evaluate_spelled room v h.1,
      evaluateMembers_spelledMembers room ms h.2]
    rfl

end

/-- A value reads back from its text with its members in ascending order. -/
theorem ofBytes?_bytes {v : Json} (h : Fits maxDepth v) : ofBytes? v.bytes = some v.sorted := by
  rw [ofBytes?, Spelled.ofBytes?_bytes maxDepth h, Option.bind_some, evaluate_spelled maxDepth v h]

end SeriesCatalog.Json
