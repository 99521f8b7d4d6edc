/-
A registry in use. Its schemes are those registered so far in small letters, in ascending order, however
they were written and however often; looking a scheme up makes it small in the same way, so that it is
found exactly if one of them has the same letters. Only a registration that brings in a new scheme
changes anything.
-/
import SeriesCatalog.Registry
import SeriesCatalog.Proofs.Ascending
import Mathlib.Tactic

namespace SeriesCatalog.Registry

open Text

/-! ## Requests -/

/-- What a registry is asked for. -/
inductive Request
  | register (scheme : String) (driver : Driver)
  | resolve (scheme : String)
  deriving DecidableEq, Repr

/-- What it answers: whether the scheme is new, or the driver of the scheme. -/
inductive Answer
  | registered (isNew : Bool)
  | resolved (result : Except CatalogError Driver)

/-- The scheme that a request registers, if any. -/
def Request.schemes : Request → List String
  | register scheme _ => [scheme]
  | resolve _ => []

/-- One request: the answer and the registry afterwards. -/
def step (r : Registry) : Request → Answer × Registry
  | .register scheme driver => (r.register scheme driver).map .registered id
  | .resolve scheme => (.resolved (r.resolve scheme), r)

/-- The registry after requests one after another. -/
def after (r : Registry) (requests : List Request) : Registry :=
  requests.foldl (fun r request => (r.step request).2) r

/-- A registry to begin with: that of the default scheme, or an empty one. -/
def start (defaults : Bool) : Registry := if defaults then withDefaults else {}

/-- The schemes that are there from the start. -/
def given (defaults : Bool) : List String := if defaults then [defaultScheme] else []

/-- The registry lists these schemes in small letters and no others, in ascending order. -/
structure Knows (r : Registry) (known : List String) : Prop where
  ascending : Ascending.Holds id r.schemes
  mem_iff : ∀ s, s ∈ r.schemes ↔ ∃ t ∈ known, key t = s

variable {r : Registry} {known : List String} {scheme : String} {driver : Driver}

/-! ## Lookup -/

theorem key_eq_key_iff {s t : String} : key s = key t ↔ sameLetters s t = true := by
  rw [key, key, String.ofList_inj, sameLetters, beq_iff_eq]

/-- A scheme is listed exactly if one of the known schemes has its letters. -/
theorem Knows.key_mem_iff (h : r.Knows known) : key scheme ∈ r.schemes ↔ known.any (sameLetters · scheme) = true := by
  rw [h.mem_iff, List.any_eq_true]
  simp only [key_eq_key_iff]

theorem Knows.isSome_driver?_iff (h : r.Knows known) :
    (r.driver? scheme).isSome = true ↔ known.any (sameLetters · scheme) = true := by
  rw [driver?, List.lookup_isSome_iff, ← h.key_mem_iff, schemes, List.mem_map]
  constructor
  · rintro ⟨entry, hentry, hkey⟩
    exact ⟨entry, hentry, (beq_iff_eq.1 hkey).symm⟩
  · rintro ⟨entry, hentry, hkey⟩
    exact ⟨entry, hentry, beq_iff_eq.2 hkey.symm⟩

/-- There is one driver, so what matters is whether the scheme is known. -/
theorem Knows.driver?_eq (h : r.Knows known) (scheme : String) :
    r.driver? scheme = if known.any (sameLetters · scheme) then some .rest else none := by
  have hsome : (r.driver? scheme).isSome = true ↔ _ := h.isSome_driver?_iff
  cases hdriver : r.driver? scheme with
  | none =>
    rw [hdriver] at hsome
    rw [if_neg fun hknown => Bool.false_ne_true (hsome.2 hknown)]
  | some driver =>
    cases driver
    rw [if_pos (hsome.1 (by rw [hdriver]; rfl))]

theorem Knows.resolve_eq (h : r.Knows known) (scheme : String) :
    r.resolve scheme = if known.any (sameLetters · scheme) then .ok .rest else .error (.unknownScheme scheme) := by
  rw [resolve, h.driver?_eq]
  cases known.any (sameLetters · scheme) <;> rfl

theorem Knows.register_of_known (h : r.Knows known) (hknown : known.any (sameLetters · scheme) = true) :
    r.register scheme driver = (false, r) := by
  rw [register, h.driver?_eq, if_pos hknown]

theorem Knows.register_of_new (h : r.Knows known) (hnew : known.any (sameLetters · scheme) = false) :
    r.register scheme driver = (true, ⟨Ascending.insert (·.1) (key scheme, driver) r.entries⟩) := by
  rw [register, h.driver?_eq, hnew]
  rfl

/-! ## One request -/

theorem Knows.ascending_register (h : r.Knows known) (scheme : String) (driver : Driver) :
    Ascending.Holds id (r.register scheme driver).2.schemes := by
  cases hknown : known.any (sameLetters · scheme) with
  | true =>
    rw [h.register_of_known hknown]
    exact h.ascending
  | false =>
    have hentries : Ascending.Holds (id ∘ Prod.fst) r.entries := Ascending.holds_map.1 h.ascending
    rw [h.register_of_new hknown]
    exact Ascending.holds_map.2 (hentries.insert (key scheme, driver))

/-- Registering adds the scheme in small letters to what is listed, unless it is there already. -/
theorem Knows.mem_schemes_register (h : r.Knows known) (scheme : String) (driver : Driver) {s : String} :
    s ∈ (r.register scheme driver).2.schemes ↔ s ∈ r.schemes ∨ key scheme = s := by
  cases hknown : known.any (sameLetters · scheme) with
  | true =>
    rw [h.register_of_known hknown, or_iff_left_of_imp]
    rintro rfl
    exact h.key_mem_iff.2 hknown
  | false =>
    have hentries : Ascending.Holds (id ∘ Prod.fst) r.entries := Ascending.holds_map.1 h.ascending
    have hfresh : ∀ entry ∈ r.entries, entry.1 ≠ key scheme := by
      intro entry hentry hkey
      have hlisted : key scheme ∈ r.schemes := List.mem_map.2 ⟨entry, hentry, hkey⟩
      rw [h.key_mem_iff, hknown] at hlisted
      cases hlisted
    have hmem : ∀ entry, entry ∈ Ascending.insert (·.1) (key scheme, driver) r.entries ↔
        entry = (key scheme, driver) ∨ entry ∈ r.entries := fun entry => Ascending.mem_insert_of_new hentries hfresh
    rw [h.register_of_new hknown]
    simp only [schemes, List.mem_map, hmem, or_and_right, exists_or, exists_eq_left, or_comm]

theorem Knows.register (h : r.Knows known) (scheme : String) (driver : Driver) :
    (r.register scheme driver).2.Knows (known ++ [scheme]) where
  ascending := h.ascending_register scheme driver
  mem_iff s := by
    rw [h.mem_schemes_register, h.mem_iff]
    simp only [List.mem_append, List.mem_singleton, or_and_right, exists_or, exists_eq_left]

theorem Knows.step (h : r.Knows known) (request : Request) :
    (r.step request).2.Knows (known ++ request.schemes) := by
  cases request with
  | register scheme driver => exact h.register scheme driver
  | resolve => rwa [Request.schemes, List.append_nil]

/-! ## Runs -/

theorem knows_start (defaults : Bool) : (start defaults).Knows (given defaults) := by
  cases defaults with
  | false => exact ⟨List.Pairwise.nil, fun s => by simp [start, schemes, given]⟩
  | true =>
    have hkey : key defaultScheme = defaultScheme := rfl
    exact ⟨List.pairwise_singleton _ _, fun s => by simp [start, schemes, given, withDefaults, hkey, eq_comm]⟩

theorem Knows.after (h : r.Knows known) (requests : List Request) :
    (r.after requests).Knows (known ++ requests.flatMap Request.schemes) := by
  induction requests generalizing r known with
  | nil => rwa [List.flatMap_nil, List.append_nil]
  | cons request requests ih =>
    rw [List.flatMap_cons, ← List.append_assoc]
    exact ih (h.step request)

/-- Every request of every run, whatever came before it. Afterwards the registry lists the schemes registered
so far, with the default one if it was there from the start, in small letters and in ascending order. A
registration is new exactly if no scheme so far has the letters of its own; if one has, it stands for that
very driver, and nothing changes. A lookup never changes anything; it gives the driver if a scheme so far has
these letters, and otherwise an error that holds the scheme as it is written. -/
theorem answers_of_run (defaults : Bool) (earlier : List Request) (request : Request) :
    let known := given defaults ++ earlier.flatMap Request.schemes
    let r := (start defaults).after earlier
    (r.step request).2.Knows (known ++ request.schemes) ∧
      match request with
      | .register scheme driver =>
        (r.step request).1 = .registered (!known.any (sameLetters · scheme)) ∧
          (known.any (sameLetters · scheme) = true → r.driver? scheme = some driver ∧ (r.step request).2 = r)
      | .resolve scheme =>
        r.step request =
          (.resolved (if known.any (sameLetters · scheme) then .ok .rest else .error (.unknownScheme scheme)), r) := by
  intro known r
  have hknows : r.Knows known := (knows_start defaults).after earlier
  refine ⟨hknows.step request, ?_⟩
  cases request with
  | register scheme driver =>
    dsimp only [step]
    cases hknown : known.any (sameLetters · scheme) with
    | true =>
      rw [hknows.register_of_known hknown, hknows.driver?_eq, if_pos hknown]
      exact ⟨rfl, fun _ => ⟨by cases driver; rfl, rfl⟩⟩
    | false =>
      rw [hknows.register_of_new hknown]
      exact ⟨rfl, nofun⟩
  | resolve scheme =>
    dsimp only [step]
    rw [hknows.resolve_eq]

/-- The default scheme in other letters, after one with a letter that has no small form here, an empty one and
a lookup. -/
theorem answers_of_run_mixed :
    let earlier : List Request := [.register "Ä" .rest, .register "" .rest, .resolve "x", .register "TSDB" .rest]
    let r := (start true).after earlier
    r.schemes = ["", "iotdb", "tsdb", "Ä"] ∧ r.step (.register "IoTdb" .rest) = (.registered false, r) ∧
      r.step (.resolve "tsDB") = (.resolved (.ok .rest), r) ∧
      r.step (.resolve "ä") = (.resolved (.error (.unknownScheme "ä")), r) := by
  intro earlier r
  obtain ⟨-, hanswer, hkept⟩ := answers_of_run true earlier (.register "IoTdb" .rest)
  obtain ⟨-, hfound⟩ := answers_of_run true earlier (.resolve "tsDB")
  obtain ⟨-, hmissing⟩ := answers_of_run true earlier (.resolve "ä")
  exact ⟨by decide +kernel, Prod.ext hanswer (hkept (by decide)).2, hfound, hmissing⟩

end SeriesCatalog.Registry
