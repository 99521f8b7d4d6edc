/-
Listing statements as they are built from names. A pattern without blanks is one word of the
statement, so what is built reads as the listing of just that pattern, or is refused for the pattern
because it is not rooted or has an empty node; no other statement can come of it.
-/
import SeriesCatalog.Dialect
import SeriesCatalog.Proofs.Path.Pattern
import SeriesCatalog.Proofs.Statement.Core
import SeriesCatalog.Proofs.Statement.Made

namespace SeriesCatalog

namespace Statement

open Text

/-! ## Words -/

theorem words_three {u v w : List Char} (hu : u ≠ []) (hv : v ≠ []) (hw : w ≠ [])
    (hbu : ∀ c ∈ u, isBlank c = false) (hbv : ∀ c ∈ v, isBlank c = false) (hbw : ∀ c ∈ w, isBlank c = false) :
    words (u ++ ' ' :: (v ++ ' ' :: w)) = [u, v, w] := by
  rw [words_append _ hu hbu (by decide), words_append _ hv hbv (by decide), words_of_noBlank hw hbw]

/-! ## Patterns -/

/-- A word that ends in a star is the text of its path. -/
theorem path_of_noBlank {p : Path} {cs : List Char} (hp : p.text.toList = cs ++ ['*'])
    (hblank : ∀ c ∈ p.text.toList, isBlank c = false) :
    path p.text.toList =
      if p.nodes.head? ≠ some "root" then .error (.notUnderRoot p.text)
      else if p.nodes.contains "" then .error (.emptyNode p.text)
      else .ok p := by
  have htrim : Cut.trimEnd (· == ',') (trim p.text.toList) = p.text.toList := by
    rw [trim, Cut.trimBy_of_all hblank, hp, Cut.trimEnd_concat (by decide)]
  unfold path
  rw [htrim, String.ofList_toList]

theorem path_eq_ok {p : Path} {cs : List Char} (hp : p.text.toList = cs ++ ['*'])
    (hblank : ∀ c ∈ p.text.toList, isBlank c = false) (h : p.Rooted) : path p.text.toList = .ok p := by
  rw [path_of_noBlank hp hblank, if_neg (by simpa using h.root), if_neg (by simpa using h.noEmptyNode)]

/-- Why a path that is not rooted is refused. -/
def Fault.ofPath (p : Path) : Fault :=
  if p.nodes.head? ≠ some "root" then .notUnderRoot p.text else .emptyNode p.text

theorem path_of_not_rooted {p : Path} {cs : List Char} (hp : p.text.toList = cs ++ ['*'])
    (hblank : ∀ c ∈ p.text.toList, isBlank c = false) (h : ¬ p.Rooted) :
    path p.text.toList = .error (.ofPath p) := by
  rw [path_of_noBlank hp hblank, Fault.ofPath]
  split
  · rfl
  · rename_i hroot
    have hempty : "" ∈ p.nodes := by
      by_contra hne
      exact h ⟨by simpa using hroot, hne⟩
    rw [if_pos (by simpa using hempty)]

/-! ## Statements -/

/-- The words of a listing of a pattern. -/
theorem words_listing (kind : List Char) {p : Path} {cs : List Char} (hp : p.text.toList = cs ++ ['*'])
    (hblank : ∀ c ∈ p.text.toList, isBlank c = false) (hkind : kind ≠ []) (hbk : ∀ c ∈ kind, isBlank c = false) :
    words (core ("SHOW ".toList ++ kind ++ ' ' :: p.text.toList)) = ["SHOW".toList, kind, p.text.toList] := by
  have hcore : core ("SHOW ".toList ++ kind ++ ' ' :: p.text.toList) =
      "SHOW".toList ++ ' ' :: (kind ++ ' ' :: p.text.toList) := by
    have hends : Ends ('S' :: ("HOW ".toList ++ kind ++ ' ' :: cs) ++ ['*']) := ends_concat _ (by decide) (by decide)
    have hself := core_of_ends_of_head? hends fun c hc => Option.some.inj hc ▸ by decide
    rw [hp]
    simpa using hself
  rw [hcore, words_three (by decide) hkind (by simp [hp]) (noBlank_of_all (by decide)) hbk hblank]

/-- A listing of a pattern reads as the listing of the path that the pattern spells. -/
theorem parse_listing {sql : String} {kind : List Char} {p : Path} {cs : List Char} {listing : Option Path → Statement}
    (hsql : sql.toList = "SHOW ".toList ++ kind ++ ' ' :: p.text.toList) (hp : p.text.toList = cs ++ ['*'])
    (hblank : ∀ c ∈ p.text.toList, isBlank c = false) (hkind : kind ≠ []) (hbk : ∀ c ∈ kind, isBlank c = false)
    (hread : ∀ w, ofWords? ["SHOW".toList, kind, w] = some ((listing ∘ some) <$> path w)) :
    parse sql = (listing ∘ some) <$> path p.text.toList := by
  unfold parse
  dsimp only
  rw [hsql, words_listing kind hp hblank hkind hbk, hread]
  rfl

theorem parse_showDevices {p : Path} {cs : List Char} (hp : p.text.toList = cs ++ ['*'])
    (hblank : ∀ c ∈ p.text.toList, isBlank c = false) :
    parse ("SHOW DEVICES " ++ p.text) = (.showDevices ∘ some) <$> path p.text.toList := by
  have hsql : ("SHOW DEVICES " ++ p.text).toList = "SHOW ".toList ++ "DEVICES".toList ++ ' ' :: p.text.toList := by
    rw [String.toList_append]
    rfl
  exact parse_listing hsql hp hblank (by decide) (noBlank_of_all (by decide)) fun _ => rfl

theorem parse_showSeries {p : Path} {cs : List Char} (hp : p.text.toList = cs ++ ['*'])
    (hblank : ∀ c ∈ p.text.toList, isBlank c = false) :
    parse ("SHOW TIMESERIES " ++ p.text) = (.showSeries ∘ some) <$> path p.text.toList := by
  have hsql : ("SHOW TIMESERIES " ++ p.text).toList =
      "SHOW ".toList ++ "TIMESERIES".toList ++ ' ' :: p.text.toList := by
    rw [String.toList_append]
    rfl
  exact parse_listing hsql hp hblank (by decide) (noBlank_of_all (by decide)) fun _ => rfl

end Statement

end SeriesCatalog
