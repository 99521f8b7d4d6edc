/-
The forms of a statement. A statement opens with keywords, and they decide what the words behind them
are: nothing, one path, a list of paths, or the path of a new series with its attributes. No opening is
a beginning of another one, so the words of a statement divide in one way only. The reader takes exactly
these forms; whoever asks about statements asks about four forms instead of each line of the reader.
-/
import SeriesCatalog.Statement.Parser
import Mathlib.Tactic

namespace SeriesCatalog.Statement

open Text

/-- The words spell the keywords, in whatever case. -/
def Spells (ws : List (List Char)) (ks : List Keyword) : Prop := ws.map Keyword.ofWord? = ks.map some

/-- The openings with nothing behind them. -/
def completeForms : List (List Keyword × Statement) :=
  [([.present, .databases], .showDatabases none), ([.present, .storage, .group], .showDatabases none),
    ([.present, .devices], .showDevices none), ([.present, .timeseries], .showSeries none)]

/-- The openings with one path behind them, and what is made of it. -/
def pathForms : List (List Keyword × (Path → Statement)) :=
  [([.create, .database], .createDatabase), ([.create, .storage, .group], .createDatabase),
    ([.set, .storage, .group, .onto], .createDatabase), ([.delete, .timeseries], .deleteSeries),
    ([.present, .databases], .showDatabases ∘ some), ([.present, .storage, .group], .showDatabases ∘ some),
    ([.present, .devices], .showDevices ∘ some), ([.present, .timeseries], .showSeries ∘ some)]

/-- The openings with a list of paths behind them. -/
def listOpenings : List (List Keyword) := [[.delete, .database], [.drop, .database], [.delete, .storage, .group]]

/-- The opening with a path, one more keyword and attributes behind it. -/
def creationOpening : List Keyword := [.create, .timeseries]

/-- All openings. -/
def openings : List (List Keyword) := creationOpening :: (listOpenings ++ pathForms.map (·.1))

/-- What the words behind an opening make of the statement. -/
inductive Reads : List Keyword → List (List Char) → Except Fault Statement → Prop
  | complete {ks : List Keyword} {st : Statement} (h : (ks, st) ∈ completeForms) : Reads ks [] (.ok st)
  | onPath {ks : List Keyword} {make : Path → Statement} (h : (ks, make) ∈ pathForms) (w : List Char) :
      Reads ks [w] (make <$> path w)
  | onList {ks : List Keyword} (h : ks ∈ listOpenings) {ws : List (List Char)} (hne : ws ≠ []) :
      Reads ks ws (.deleteDatabases <$> paths ws)
  | creation (w : List Char) {v : List Char} (hv : Keyword.ofWord? v = some .having) {attributes : List (List Char)}
      (hne : attributes ≠ []) : Reads creationOpening (w :: v :: attributes) (creation w (join ' ' attributes))

/-! ## Openings -/

theorem openings_prefix_free : ∀ ks ∈ openings, ∀ ks' ∈ openings, ks <+: ks' → ks = ks' := by decide

theorem Reads.mem_openings {ks : List Keyword} {ws : List (List Char)} {r : Except Fault Statement}
    (h : Reads ks ws r) :
    ks ∈ openings := by
  cases h with
  | complete h =>
    have hall : ∀ form ∈ completeForms, form.1 ∈ openings := by decide
    exact hall _ h
  | onPath h => exact List.mem_cons_of_mem _ (List.mem_append_right _ (List.mem_map_of_mem h))
  | onList h => exact List.mem_cons_of_mem _ (List.mem_append_left _ h)
  | creation => exact List.mem_cons_self ..

/-- Behind the opening of a creation stand a path, one keyword and attributes. -/
theorem Reads.exists_of_creationOpening {w : List Char} {rest : List (List Char)} {r : Except Fault Statement}
    (h : Reads creationOpening (w :: rest) r) :
    ∃ v attributes, rest = v :: attributes ∧ Keyword.ofWord? v = some .having ∧ attributes ≠ [] ∧
      r = Statement.creation w (join ' ' attributes) := by
  generalize hks : creationOpening = ks at h
  cases h with
  | onPath h =>
    have hall : ∀ form ∈ pathForms, form.1 ≠ creationOpening := by simp [pathForms, creationOpening]
    exact absurd hks.symm (hall _ h)
  | onList h =>
    have hall : ∀ opening ∈ listOpenings, opening ≠ creationOpening := by decide
    exact absurd hks.symm (hall _ h)
  | creation _ hv hne => exact ⟨_, _, rfl, hv, hne, rfl⟩

section

variable {ks ks' : List Keyword} {front front' tail tail' : List (List Char)}

theorem Spells.begins (h : Spells front ks) (tail : List (List Char)) :
    ks.map some <+: (front ++ tail).map Keyword.ofWord? := by
  rw [List.map_append, h]
  exact List.prefix_append ..

theorem Spells.length_eq (h : Spells front ks) : front.length = ks.length := by
  simpa using congrArg List.length h

/-- The words of a statement have only one opening. -/
theorem Spells.unique (h : Spells front ks) (h' : Spells front' ks') (hks : ks ∈ openings) (hks' : ks' ∈ openings)
    (he : front ++ tail = front' ++ tail') : ks = ks' ∧ front = front' ∧ tail = tail' := by
  have hks : ks = ks' := by
    rcases List.prefix_or_prefix_of_prefix (h.begins tail) (he ▸ h'.begins tail') with hle | hle
    · exact openings_prefix_free ks hks ks' hks' ((List.prefix_map_iff_of_injective (Option.some_injective _)).1 hle)
    · exact (openings_prefix_free ks' hks' ks hks
        ((List.prefix_map_iff_of_injective (Option.some_injective _)).1 hle)).symm
  have hlength : front.length = front'.length := by rw [h.length_eq, h'.length_eq, hks]
  exact ⟨hks, List.append_inj he hlength⟩

end

/-! ## The reader -/

theorem spells_nil {ws : List (List Char)} : Spells ws [] ↔ ws = [] := by simp [Spells]

theorem spells_cons {ws : List (List Char)} {k : Keyword} {ks : List Keyword} :
    Spells ws (k :: ks) ↔ ∃ w rest, ws = w :: rest ∧ Keyword.ofWord? w = some k ∧ Spells rest ks := by
  simp [Spells, List.map_eq_cons_iff]

/-- Every form is read as it says. -/
theorem ofWords?_of_reads {ks : List Keyword} {front tail : List (List Char)} {r : Except Fault Statement}
    (hfront : Spells front ks) (h : Reads ks tail r) : ofWords? (front ++ tail) = some r := by
  cases h with
  | complete h =>
    simp only [completeForms, List.mem_cons, Prod.mk.injEq, List.not_mem_nil, or_false] at h
    rcases h with ⟨rfl, rfl⟩ | ⟨rfl, rfl⟩ | ⟨rfl, rfl⟩ | ⟨rfl, rfl⟩ <;>
      simp only [spells_cons, spells_nil] at hfront <;> grind [ofWords?]
  | onPath h w =>
    simp only [pathForms, List.mem_cons, Prod.mk.injEq, List.not_mem_nil, or_false] at h
    rcases h with ⟨rfl, rfl⟩ | ⟨rfl, rfl⟩ | ⟨rfl, rfl⟩ | ⟨rfl, rfl⟩ |
      ⟨rfl, rfl⟩ | ⟨rfl, rfl⟩ | ⟨rfl, rfl⟩ | ⟨rfl, rfl⟩ <;>
      simp only [spells_cons, spells_nil] at hfront <;> grind [ofWords?]
  | onList h hne =>
    obtain ⟨p, ps, rfl⟩ := List.exists_cons_of_ne_nil hne
    simp only [listOpenings, List.mem_cons, List.not_mem_nil, or_false] at h
    rcases h with rfl | rfl | rfl <;> simp only [spells_cons, spells_nil] at hfront
    · obtain ⟨a, _, rfl, ha, b, _, rfl, hb, rfl⟩ := hfront
      simp [ofWords?, ha, hb, Function.comp_def]
    · obtain ⟨a, _, rfl, ha, b, _, rfl, hb, rfl⟩ := hfront
      simp [ofWords?, ha, hb, Function.comp_def]
    · obtain ⟨a, _, rfl, ha, b, _, rfl, hb, c, _, rfl, hc, rfl⟩ := hfront
      simp [ofWords?, ha, hb, hc, Function.comp_def]
  | creation w hv hne =>
    obtain ⟨a, as, rfl⟩ := List.exists_cons_of_ne_nil hne
    simp only [creationOpening, spells_cons, spells_nil] at hfront
    obtain ⟨u, _, rfl, hu, u', _, rfl, hu', rfl⟩ := hfront
    simp [ofWords?, hu, hu', hv, Function.comp_def]

/-- Beside each word stands the keyword that it spells. -/
theorem ofWord?_of_mem_pairs {ws : List (List Char)} {pairs : List (Option Keyword × List Char)}
    (hpairs : ws.map (fun w => (Keyword.ofWord? w, w)) = pairs) {k : Option Keyword} {w : List Char}
    (h : (k, w) ∈ pairs) :
    Keyword.ofWord? w = k := by
  obtain ⟨v, -, hv⟩ := List.mem_map.1 (hpairs ▸ h)
  cases hv
  rfl

/-- The words, each with the keyword that it spells, divide as their openings do. -/
theorem exists_reads_of_pairs {ws : List (List Char)} {r r' : Except Fault Statement} (ks : List Keyword)
    (front : List (Option Keyword × List Char)) {tail : List (Option Keyword × List Char)}
    (hpairs : ws.map (fun w => (Keyword.ofWord? w, w)) = front ++ tail) (hks : front.map (·.1) = ks.map some)
    (h : Reads ks (tail.map (·.2)) r) (hr : some r = some r') :
    ∃ ks front tail, ws = front ++ tail ∧ Spells front ks ∧ Reads ks tail r' := by
  have hwords : ws = front.map (·.2) ++ tail.map (·.2) := by
    rw [← List.map_append, ← hpairs]
    simp [Function.comp_def]
  refine ⟨ks, _, _, hwords, ?_, Option.some.inj hr ▸ h⟩
  rw [Spells, ← hks, List.map_map]
  exact List.map_congr_left fun _ hpair => ofWord?_of_mem_pairs hpairs (List.mem_append_left tail hpair)

/-- What is read has one of the forms. -/
theorem exists_reads_of_ofWords? {ws : List (List Char)} {r : Except Fault Statement} (h : ofWords? ws = some r) :
    ∃ ks front tail, ws = front ++ tail ∧ Spells front ks ∧ Reads ks tail r := by
  unfold ofWords? at h
  split at h
  -- one case for each line of the reader, in its order
  case h_1 hw =>
    exact exists_reads_of_pairs [.create, .database] [_, _] hw rfl (.onPath (by simp [pathForms]) _) h
  case h_2 hw =>
    exact exists_reads_of_pairs [.create, .storage, .group] [_, _, _] hw rfl (.onPath (by simp [pathForms]) _) h
  case h_3 hw =>
    exact exists_reads_of_pairs [.set, .storage, .group, .onto] [_, _, _, _] hw rfl (.onPath (by simp [pathForms]) _) h
  case h_4 hw =>
    exact exists_reads_of_pairs [.delete, .database] [_, _] hw rfl (.onList (by decide) (by simp)) h
  case h_5 hw =>
    exact exists_reads_of_pairs [.drop, .database] [_, _] hw rfl (.onList (by decide) (by simp)) h
  case h_6 hw =>
    exact exists_reads_of_pairs [.delete, .storage, .group] [_, _, _] hw rfl (.onList (by decide) (by simp)) h
  case h_7 hw =>
    exact exists_reads_of_pairs creationOpening [_, _] hw rfl
      (.creation _ (ofWord?_of_mem_pairs hw (by simp)) (by simp)) h
  case h_8 hw =>
    exact exists_reads_of_pairs [.delete, .timeseries] [_, _] hw rfl (.onPath (by simp [pathForms]) _) h
  case h_9 hw =>
    exact exists_reads_of_pairs [.present, .databases] [_, _] hw rfl (.complete (by decide)) h
  case h_10 hw =>
    exact exists_reads_of_pairs [.present, .storage, .group] [_, _, _] hw rfl (.complete (by decide)) h
  case h_11 hw =>
    exact exists_reads_of_pairs [.present, .databases] [_, _] hw rfl (.onPath (by simp [pathForms]) _) h
  case h_12 hw =>
    exact exists_reads_of_pairs [.present, .storage, .group] [_, _, _] hw rfl (.onPath (by simp [pathForms]) _) h
  case h_13 hw =>
    exact exists_reads_of_pairs [.present, .devices] [_, _] hw rfl (.complete (by decide)) h
  case h_14 hw =>
    exact exists_reads_of_pairs [.present, .devices] [_, _] hw rfl (.onPath (by simp [pathForms]) _) h
  case h_15 hw =>
    exact exists_reads_of_pairs [.present, .timeseries] [_, _] hw rfl (.complete (by decide)) h
  case h_16 hw =>
    exact exists_reads_of_pairs [.present, .timeseries] [_, _] hw rfl (.onPath (by simp [pathForms]) _) h
  case h_17 => cases h

theorem parse_eq_ok_iff {sql : String} {st : Statement} :
    parse sql = .ok st ↔ ofWords? (words (core sql.toList)) = some (.ok st) := by
  unfold parse
  dsimp only
  cases ofWords? (words (core sql.toList)) with
  | none => exact iff_of_false nofun nofun
  | some r => rw [Option.getD_some, Option.some_inj]

end SeriesCatalog.Statement
