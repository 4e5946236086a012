import BackendPolicy.Data.Bisect

/-!
This module contains the correctness of bisection: in an increasing table the entries before the answer are
those that are at most the bound.
-/

namespace BackendPolicy

theorem getElem_le_of_sorted {table : Array Nat} (hsorted : table.toList.Pairwise (· ≤ ·)) {i j : Nat}
    (hij : i ≤ j) (hj : j < table.size)
    : table[i] ≤ table[j] := by
  obtain rfl | hlt := Nat.eq_or_lt_of_le hij
  . exact Nat.le_refl _
  . exact List.pairwise_iff_getElem.1 hsorted i j (by simp; omega) (by simpa using hj) hlt

namespace countUpTo

/--
The bounds of the search close in on the answer: what is before `low` is at most the bound, and what is at
`high` or behind is above it.
-/
theorem lt_go_iff {table : Array Nat} (hsorted : table.toList.Pairwise (· ≤ ·)) (bound low high : Nat)
    (hhigh : high ≤ table.size)
    (hbelow : ∀ (i : Nat) (hi : i < table.size), i < low → table[i] ≤ bound)
    (habove : ∀ (i : Nat) (hi : i < table.size), high ≤ i → bound < table[i])
    : ∀ (i : Nat) (hi : i < table.size), i < go table bound low high hhigh ↔ table[i] ≤ bound := by
  fun_induction go table bound low high hhigh with
  | case1 low high hhigh hlt middle hmiddle hle ih =>
    apply ih
    . intro i hi hlow
      apply Nat.le_trans (getElem_le_of_sorted hsorted (by omega) hmiddle) hle
    . exact habove
  | case2 low high hhigh hlt middle hmiddle hgt ih =>
    apply ih
    . exact hbelow
    . intro i hi hhigh
      have := getElem_le_of_sorted hsorted hhigh hi
      omega
  | case3 low high hhigh hge =>
    intro i hi
    constructor
    . exact hbelow i hi
    . intro hle
      have := habove i hi
      omega

theorem go_le (table : Array Nat) (bound low high : Nat) (hhigh : high ≤ table.size) (hlow : low ≤ high)
    : go table bound low high hhigh ≤ high := by
  fun_induction go table bound low high hhigh with
  | case1 low high hhigh hlt middle hmiddle hle ih =>
    apply ih
    omega
  | case2 low high hhigh hlt middle hmiddle hgt ih =>
    have := ih (by omega)
    omega
  | case3 low high hhigh hge => exact hlow

end countUpTo

theorem lt_countUpTo_iff {table : Array Nat} (hsorted : table.toList.Pairwise (· ≤ ·)) (bound : Nat) {i : Nat}
    (hi : i < table.size)
    : i < countUpTo table bound ↔ table[i] ≤ bound := by
  unfold countUpTo
  apply countUpTo.lt_go_iff hsorted
  . intro i hi hlow
    omega
  . intro i hi hhigh
    omega

theorem countUpTo_le_size (table : Array Nat) (bound : Nat) : countUpTo table bound ≤ table.size := by
  unfold countUpTo
  apply countUpTo.go_le
  omega

theorem countUpTo_eq_countP {table : Array Nat} (hsorted : table.toList.Pairwise (· ≤ ·)) (bound : Nat)
    : countUpTo table bound = table.toList.countP (· ≤ bound) := by
  have hsize := countUpTo_le_size table bound
  have hbefore : (table.toList.take (countUpTo table bound)).countP (· ≤ bound) = countUpTo table bound := by
    rw [List.countP_eq_length.2]
    . rw [List.length_take]
      exact Nat.min_eq_left hsize
    . intro entry hentry
      obtain ⟨i, hi, rfl⟩ := List.mem_take_iff_getElem.1 hentry
      simp only [Array.length_toList] at hi
      simpa using (lt_countUpTo_iff hsorted bound (by omega)).1 (by omega)
  have hbehind : (table.toList.drop (countUpTo table bound)).countP (· ≤ bound) = 0 := by
    rw [List.countP_eq_zero]
    intro entry hentry
    obtain ⟨i, hi, rfl⟩ := List.mem_drop_iff_getElem.1 hentry
    simp only [Array.length_toList] at hi
    rw [Array.getElem_toList]
    rw [decide_eq_true_eq]
    rw [← lt_countUpTo_iff hsorted bound (by omega)]
    omega
  rw [← List.take_append_drop (countUpTo table bound) table.toList]
  rw [List.countP_append]
  rw [hbefore]
  rw [hbehind]
  rfl

end BackendPolicy
