import BackendPolicy.Proofs.Data.Bytes
import BackendPolicy.Text.Path

/-!
This module contains the order of paths. `components_eq` reads the components of a path off its pieces between
slashes, and `le_iff` says that paths are ordered by the first component in which they differ. The order is
total and transitive, and only paths of the same components stand on both sides of each other.
-/

namespace BackendPolicy.Path

/--
What a path begins with: the root if nothing is before its first slash, and the current directory if there is
a dot.
-/
def leading : List String → List Component
  | [] => []
  | first :: rest =>
    if first = "" ∧ rest ≠ [] then [.root]
    else if first = "." then [.here]
    else []

def ordinary? (piece : String) : Option Component :=
  if piece = "" ∨ piece = "." then none
  else if piece = ".." then some .up
  else some (.name piece)

/--
Whether a component is before another: the root, the current directory, the parent directory and then the
names by their bytes.
-/
inductive Component.Before : Component → Component → Prop where
  | root {c : Component} (h : c ≠ .root) : Before .root c
  | here {c : Component} (hroot : c ≠ .root) (hhere : c ≠ .here) : Before .here c
  | up (s : String) : Before .up (.name s)
  | name {s t : String} (h : utf8Bytes s < utf8Bytes t) : Before (.name s) (.name t)

theorem splitSlash_ne_nil (cs : List Char) : splitSlash cs ≠ [] := by
  cases cs with
  | nil => simp [splitSlash]
  | cons c rest =>
    unfold splitSlash
    split
    . simp
    . split <;> simp

theorem splitSlash_eq_splitOn (cs : List Char) : splitSlash cs = cs.splitOn '/' := by
  unfold List.splitOn
  induction cs with
  | nil => rfl
  | cons c rest ih =>
    unfold splitSlash
    rw [List.splitOnP_cons_eq_if_modifyHead]
    rw [← ih]
    by_cases h : c = '/'
    . simp [h]
    . obtain ⟨piece, pieces, hpieces⟩ := List.exists_cons_of_ne_nil (splitSlash_ne_nil rest)
      simp [h, hpieces]

theorem ofPiece?_eq_ordinary? {piece : String} (h : piece ≠ "") : Component.ofPiece? piece = ordinary? piece := by
  unfold Component.ofPiece? ordinary?
  simp [h]

theorem filterMap_ofPiece? (pieces : List (List Char))
    : ((pieces.filter (· ≠ [])).map String.ofList).filterMap Component.ofPiece?
        =
      (pieces.map String.ofList).filterMap ordinary? := by
  induction pieces with
  | nil => rfl
  | cons piece pieces ih =>
    rw [List.map_cons]
    rw [List.filterMap_cons]
    by_cases h : piece = []
    . subst h
      exact ih
    . have hne : String.ofList piece ≠ "" := by simpa using h
      rw [List.filter_cons_of_pos (by simpa using h)]
      rw [List.map_cons]
      rw [List.filterMap_cons]
      rw [ofPiece?_eq_ordinary? hne]
      rw [ih]

theorem components_eq (path : String)
    : components path
        =
      leading ((path.toList.splitOn '/').map String.ofList)
        ++ ((path.toList.splitOn '/').map String.ofList).filterMap ordinary? := by
  unfold components pieces isAbsolute
  dsimp only
  rw [filterMap_ofPiece?]
  rw [← splitSlash_eq_splitOn]
  generalize ((splitSlash path.toList).map String.ofList).filterMap ordinary? = inner
  cases path.toList with
  | nil => rfl
  | cons c rest =>
    obtain ⟨piece, pieces, hpieces⟩ := List.exists_cons_of_ne_nil (splitSlash_ne_nil rest)
    unfold splitSlash
    rw [hpieces]
    by_cases h : c = '/'
    . simp [h, leading]
    . have hne : String.ofList (c :: piece) ≠ "" := by simp
      simp only [h, ↓reduceIte, List.head?_cons, Option.some.injEq, decide_false, Bool.false_eq_true,
        List.map_cons, leading, hne, false_and]
      rw [List.filter_cons_of_pos (by simp)]
      simp only [List.map_cons, List.head?_cons, Option.some.injEq]
      split <;> rfl

namespace Component

def text : Component → String
  | .name s => s
  | _ => ""

theorem compare_eq_compareLex
    : Component.compare = compareLex (compareOn Component.rank) (compareOn Component.text) := by
  funext a b
  cases a <;> cases b <;> rfl

instance : Std.TransCmp Component.compare := by
  rw [compare_eq_compareLex]
  infer_instance

theorem compare_eq_eq_iff {a b : Component} : a.compare b = .eq ↔ a = b := by
  cases a <;> cases b <;> simp [Component.compare, rank]

instance : Std.LawfulEqCmp Component.compare where
  eq_of_compare := compare_eq_eq_iff.1

theorem compare_eq_lt_iff {a b : Component} : a.compare b = .lt ↔ a.Before b := by
  constructor
  . intro h
    cases a with
    | root =>
      apply Before.root
      rintro rfl
      contradiction
    | here =>
      apply Before.here
      . rintro rfl
        contradiction
      . rintro rfl
        contradiction
    | up =>
      cases b with
      | name t => exact .up t
      | _ => contradiction
    | name s =>
      cases b with
      | name t =>
        have hlt : s < t := compare_lt_iff_lt.1 h
        exact .name (utf8Bytes_lt_iff.2 hlt)
      | _ => contradiction
  . intro h
    cases h with
    | root h =>
      cases b with
      | root => contradiction
      | _ => rfl
    | here hroot hhere =>
      cases b with
      | root => contradiction
      | here => contradiction
      | _ => rfl
    | up => rfl
    | name h => exact compare_lt_iff_lt.2 (utf8Bytes_lt_iff.1 h)

end Component

theorem compareComponents_eq_compareLex : compareComponents = List.compareLex Component.compare := by
  funext as bs
  induction as generalizing bs with
  | nil => cases bs <;> rfl
  | cons a as ih =>
    cases bs with
    | nil => rfl
    | cons b bs =>
      unfold compareComponents
      rw [List.compareLex_cons_cons]
      rw [ih]

theorem compareComponents_eq_lt_iff {as bs : List Component}
    : compareComponents as bs = .lt ↔ List.Lex Component.Before as bs := by
  induction as generalizing bs with
  | nil => cases bs <;> simp [compareComponents]
  | cons a as ih =>
    cases bs with
    | nil => simp [compareComponents]
    | cons b bs =>
      unfold compareComponents
      rw [Ordering.then_eq_lt]
      rw [Component.compare_eq_lt_iff]
      rw [Component.compare_eq_eq_iff]
      rw [ih]
      rw [List.cons_lex_cons_iff]

theorem le_iff_isLE {a b : String} : le a b ↔ (compareComponents (components a) (components b)).isLE := by
  unfold le compare
  cases compareComponents (components a) (components b) <;> simp

theorem le_iff {a b : String}
    : le a b ↔ components a = components b ∨ List.Lex Component.Before (components a) (components b) := by
  rw [le_iff_isLE]
  rw [← compareComponents_eq_lt_iff]
  rw [Ordering.isLE_iff_eq_lt_or_eq_eq]
  rw [compareComponents_eq_compareLex]
  rw [Std.LawfulEqCmp.compare_eq_iff_eq]
  rw [or_comm]

theorem le_trans {a b c : String} (hab : le a b) (hbc : le b c) : le a c := by
  rw [le_iff_isLE] at *
  rw [compareComponents_eq_compareLex] at *
  exact Std.TransCmp.isLE_trans hab hbc

theorem le_total (a b : String) : le a b ∨ le b a := by
  have hswap : List.compareLex Component.compare (components a) (components b)
      = (List.compareLex Component.compare (components b) (components a)).swap :=
    Std.OrientedCmp.eq_swap
  rw [le_iff_isLE]
  rw [le_iff_isLE]
  rw [compareComponents_eq_compareLex]
  rw [hswap]
  cases List.compareLex Component.compare (components b) (components a) <;> simp

theorem components_eq_of_le {a b : String} (hab : le a b) (hba : le b a) : components a = components b := by
  rw [le_iff_isLE] at *
  rw [compareComponents_eq_compareLex] at *
  have heq : List.compareLex Component.compare (components a) (components b) = .eq :=
    Std.OrientedCmp.isLE_antisymm hab hba
  exact Std.LawfulEqCmp.eq_of_compare heq

end BackendPolicy.Path
