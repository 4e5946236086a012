import BackendPolicy.Source.Position
import Mathlib.Data.Prod.Lex

/-!
This module contains the order of points. It is the lexicographic order of line, column and byte.
-/

namespace BackendPolicy

namespace Pos

variable {p q : Pos}

theorem le_iff
    : p ≤ q
        ↔
      p.line < q.line
        ∨ p.line = q.line ∧ (p.column < q.column ∨ p.column = q.column ∧ p.byte ≤ q.byte) := by
  change compare p q ≠ .gt ↔ _
  unfold compare
  simp only [ne_eq, Ordering.then_eq_gt, Nat.compare_eq_gt, Nat.compare_eq_eq]
  omega

instance : PartialOrder Pos where
  le_refl p := by
    rw [le_iff]
    omega
  le_trans p q r := by
    rw [le_iff]
    rw [le_iff]
    rw [le_iff]
    omega
  le_antisymm p q := by
    rw [le_iff]
    rw [le_iff]
    intro hle hge
    cases p
    cases q
    simp only [mk.injEq]
    dsimp only at hle hge
    omega

def place (p : Pos) : Nat ×ₗ Nat := toLex (p.line, p.column)

theorem place_lt_place_iff
    : p.place < q.place ↔ p.line < q.line ∨ p.line = q.line ∧ p.column < q.column := by
  apply Prod.Lex.toLex_lt_toLex

theorem lt_of_place_lt (h : p.place < q.place) : p < q := by
  rw [place_lt_place_iff] at h
  rw [lt_iff_le_not_ge]
  rw [le_iff]
  rw [le_iff]
  omega

end Pos

end BackendPolicy
