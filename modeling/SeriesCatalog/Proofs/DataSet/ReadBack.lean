/-
A data set whose cells are texts, null and whole numbers of 64 bits survives its JSON text. Reading
puts the members in another order; each is looked up by its name, so the order does not matter.
-/
import SeriesCatalog.Proofs.Json.ReadBack
import SeriesCatalog.Proofs.DataSet.Transpose

namespace SeriesCatalog

namespace Json

/-! ## Cells -/

theorem fitsItems_iff {room : Nat} {vs : List Json} : FitsItems room vs ↔ ∀ v ∈ vs, Fits room v := by
  induction vs with
  | nil => simp [FitsItems]
  | cons v vs ih => rw [FitsItems, ih, List.forall_mem_cons]

/-- Items in order stay as they are. -/
theorem sortedItems_eq_self {vs : List Json} (h : ∀ v ∈ vs, v.sorted = v) : sortedItems vs = vs := by
  induction vs with
  | nil => rfl
  | cons v vs ih =>
    rw [sortedItems, h v (List.mem_cons_self ..), ih fun w hw => h w (List.mem_cons_of_mem _ hw)]

/-- A value that does not nest has room anywhere. -/
theorem Fits.of_zero {v : Json} (h : Fits 0 v) (room : Nat) : Fits room v := by
  cases v with
  | null | bool | string => trivial
  | number n => exact h
  | array | object => exact absurd h.1 (lt_irrefl 0)

/-- A value that does not nest has nothing to put in order. -/
theorem Fits.sorted_of_zero {v : Json} (h : Fits 0 v) : v.sorted = v := by
  cases v with
  | null | bool | string | number => rfl
  | array | object => exact absurd h.1 (lt_irrefl 0)

theorem fits_int {n : Int} (h : Bounded.isSigned64 n = true) : Fits 0 (int n) := by
  unfold Bounded.isSigned64 at h
  simp only [Bool.and_eq_true, decide_eq_true_eq] at h
  exact ⟨h.1, by omega⟩

end Json

namespace DataSet

open Json

/-- Every cell is a text, null, a truth value or a whole number of 64 bits, and every instant a signed one. -/
structure Plain (d : DataSet) : Prop where
  cells : ∀ column ∈ d.values, ∀ v ∈ column, Fits 0 v
  instants : ∀ n ∈ d.timestamps.getD [], Bounded.isSigned64 n = true

/-- A list reads back if each of its values does. -/
theorem list?_map {β : Type} (read : Json → Option β) (f : β → Json) {l : List β} (h : ∀ b ∈ l, read (f b) = some b) :
    list? read (.array (l.map f)) = some l := by
  show (l.map f).mapM read = some l
  induction l with
  | nil => rfl
  | cons b l ih =>
    rw [List.map_cons, List.mapM_cons, h b (List.mem_cons_self ..),
      ih fun c hc => h c (List.mem_cons_of_mem _ hc)]
    rfl

/-! ## Members -/

theorem sorted_namesJson (o : Option (List String)) : (namesJson o).sorted = namesJson o := by
  cases o with
  | none => rfl
  | some names =>
    refine congrArg Json.array (sortedItems_eq_self fun v hv => ?_)
    obtain ⟨name, -, rfl⟩ := List.mem_map.1 hv
    rfl

theorem sorted_instantsJson (o : Option (List Int)) : (instantsJson o).sorted = instantsJson o := by
  cases o with
  | none => rfl
  | some instants =>
    refine congrArg Json.array (sortedItems_eq_self fun v hv => ?_)
    obtain ⟨n, -, rfl⟩ := List.mem_map.1 hv
    rfl

theorem read_namesJson (o : Option (List String)) :
    orDefault (orNull? (list? text?)) none (some (namesJson o)) = some o := by
  cases o with
  | none => rfl
  | some names =>
    show (list? text? (.array (names.map .string))).map some = _
    rw [list?_map text? .string fun _ _ => rfl, Option.map_some]

theorem read_instantsJson {o : Option (List Int)} (h : ∀ n ∈ o.getD [], Bounded.isSigned64 n = true) :
    orDefault (orNull? (list? word?)) none (some (instantsJson o)) = some o := by
  cases o with
  | none => rfl
  | some instants =>
    have hword : ∀ n ∈ instants, word? (int n) = some n := by
      intro n hn
      show (some n).filter Bounded.isSigned64 = some n
      rw [Option.filter_some, if_pos (h n hn)]
    show (list? word? (.array (instants.map int))).map some = _
    rw [list?_map word? int hword, Option.map_some]

theorem read_valuesJson (values : List (List Json)) :
    orDefault (list? (list? some)) [] (some (.array (values.map .array))) = some values := by
  have hcolumn : ∀ column ∈ values, list? some (.array column) = some column := by
    intro column _
    have hread := list?_map some id (l := column) fun _ _ => rfl
    rwa [List.map_id] at hread
  exact list?_map (list? some) .array hcolumn

/-! ## Data sets -/

variable {d : DataSet}

theorem Plain.sorted_toJson (h : d.Plain) :
    d.toJson.sorted = .object
      [("column_names", namesJson d.columnNames), ("expressions", namesJson d.expressions),
        ("timestamps", instantsJson d.timestamps), ("values", .array (d.values.map .array))] := by
  have hvalues : sortedItems (d.values.map .array) = d.values.map .array := by
    refine sortedItems_eq_self fun v hv => ?_
    obtain ⟨column, hc, rfl⟩ := List.mem_map.1 hv
    exact congrArg Json.array (sortedItems_eq_self fun v hv => (h.cells column hc v hv).sorted_of_zero)
  simp only [toJson, sorted, sortedMembers, sorted_namesJson, sorted_instantsJson, hvalues]
  -- only the first two members change places
  simp only [Ascending.ofList, Ascending.insert, List.foldl, String.reduceLT, String.reduceEq, if_true, if_false]

/-- A data set nests two levels below its members. -/
theorem Plain.fits_toJson (h : d.Plain) : Fits maxDepth d.toJson := by
  have hlist : ∀ (room : Nat) (vs : List Json), (∀ v ∈ vs, Fits 0 v) → Fits (room + 1) (.array vs) :=
    fun room vs hvs => ⟨Nat.succ_pos _, fitsItems_iff.2 fun v hv => (hvs v hv).of_zero _⟩
  have hnames : ∀ o, Fits 126 (namesJson o) := by
    intro o
    cases o with
    | none => trivial
    | some names => exact hlist 125 _ fun v hv => by obtain ⟨s, -, rfl⟩ := List.mem_map.1 hv; trivial
  have hinstants : Fits 126 (instantsJson d.timestamps) := by
    have := h.instants
    cases ho : d.timestamps with
    | none => trivial
    | some instants =>
      rw [ho] at this
      exact hlist 125 _ fun v hv => by obtain ⟨n, hn, rfl⟩ := List.mem_map.1 hv; exact fits_int (this n hn)
  have hvalues : Fits 126 (.array (d.values.map .array)) := by
    refine ⟨by decide, fitsItems_iff.2 fun v hv => ?_⟩
    obtain ⟨column, hc, rfl⟩ := List.mem_map.1 hv
    exact hlist 124 column (h.cells column hc)
  exact ⟨by decide, hnames _, hnames _, hinstants, hvalues, trivial⟩

/-- The data set that its own JSON gives. -/
theorem Plain.ofJson?_sorted (h : d.Plain) : ofJson? d.toJson.sorted = some d := by
  rw [h.sorted_toJson]
  have hrecord : (Json.object
      [("column_names", namesJson d.columnNames), ("expressions", namesJson d.expressions),
        ("timestamps", instantsJson d.timestamps), ("values", .array (d.values.map .array))]).record? declared =
      some [some (namesJson d.columnNames), some (namesJson d.expressions), some (instantsJson d.timestamps),
        some (.array (d.values.map .array))] := by
    simp [record?, recordOfMembers?, declared]
  unfold ofJson?
  -- every member that is declared is there, so no default is taken
  rw [hrecord]
  simp only [Option.bind_eq_bind, Option.bind_some, read_namesJson, read_instantsJson h.instants, read_valuesJson]
  rfl

end DataSet

end SeriesCatalog
