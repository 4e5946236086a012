/-!
This module contains bisection in increasing tables of numbers.
-/

namespace BackendPolicy

/--
The number of entries of an increasing table that are at most `bound`, found by bisection.
-/
def countUpTo (table : Array Nat) (bound : Nat) : Nat :=
  go 0 table.size (Nat.le_refl _)
where
  go (low high : Nat) (hhigh : high ≤ table.size) : Nat :=
    if hlt : low < high then
      let middle := (low + high) / 2
      have hmiddle : middle < table.size := by omega
      if table[middle] ≤ bound then
        go (middle + 1) high hhigh
      else
        go low middle (by omega)
    else
      low
  termination_by high - low

end BackendPolicy
