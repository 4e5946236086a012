import BackendPolicy.Proofs.Text.Boundary
import Mathlib.Data.List.DropRight

/-!
This module contains the lines of a text, which are what is between its newlines. The newlines of a text are
the newline bytes among its bytes, so lines can be counted and cut in characters and in bytes alike.
-/

namespace BackendPolicy

section Last

variable {α : Type} [DecidableEq α] {a : α} {as head tail : List α}

def afterLast (a : α) (as : List α) : List α :=
  as.rtakeWhile (· ≠ a)

/--
Whether a list is cut behind its last `a`, or before everything if there is no `a`.
-/
structure CutsAfterLast (a : α) (as head tail : List α) : Prop where
  eq_append : as = head ++ tail
  closed : head = [] ∨ ∃ before, head = before ++ [a]
  not_mem : a ∉ tail

theorem afterLast_append (as : List α) {bs : List α} (h : a ∉ bs)
    : afterLast a (as ++ bs) = afterLast a as ++ bs := by
  induction bs using List.reverseRecOn with
  | nil => simp
  | append_singleton bs b ih =>
    simp only [List.mem_append, List.mem_singleton, not_or] at h
    unfold afterLast at ih ⊢
    rw [← List.append_assoc]
    rw [List.rtakeWhile_concat_pos _ _ _ (by simpa using Ne.symm h.2)]
    rw [ih h.1]
    rw [List.append_assoc]

theorem CutsAfterLast.afterLast_eq (h : CutsAfterLast a as head tail) : afterLast a as = tail := by
  obtain ⟨rfl, hclosed, hnot⟩ := h
  rw [afterLast_append head hnot]
  obtain rfl | ⟨before, rfl⟩ := hclosed
  . simp [afterLast]
  . simp [afterLast]

theorem exists_cutsAfterLast (a : α) (as : List α) : ∃ head, CutsAfterLast a as head (afterLast a as) := by
  refine ⟨as.rdropWhile (· ≠ a), ?_, ?_, ?_⟩
  . unfold afterLast
    rw [List.rdropWhile_append_rtakeWhile]
  . by_cases h : as.rdropWhile (· ≠ a) = []
    . exact .inl h
    . have hlast : (as.rdropWhile (· ≠ a)).getLast h = a := by
        simpa using List.rdropWhile_last_not _ _ h
      refine .inr ⟨(as.rdropWhile (· ≠ a)).dropLast, ?_⟩
      have hconcat := List.dropLast_concat_getLast h
      rw [hlast] at hconcat
      exact hconcat.symm
  . intro hmem
    have := List.mem_rtakeWhile_imp hmem
    simp at this

end Last

/--
The one byte of a newline. No other character has this byte.
-/
def newlineByte : UInt8 := 10

theorem newlineByte_mem_utf8EncodeChar {c : Char} : newlineByte ∈ String.utf8EncodeChar c ↔ c = '\n' := by
  constructor
  . intro h
    unfold String.utf8EncodeChar at h
    dsimp only at h
    have hbyte (n : Nat) : newlineByte = n.toUInt8 ↔ 10 = n % 256 := by
      rw [← UInt8.toNat_inj]
      simp [newlineByte]
    split at h
    . rw [List.mem_singleton, hbyte] at h
      apply Char.ext
      rw [← UInt32.toNat_inj]
      change c.val.toNat = 10
      omega
    . -- All bytes of a character of several bytes are 128 or more.
      split at h
      . simp only [List.mem_cons, List.not_mem_nil, hbyte, or_false] at h
        omega
      . split at h
        . simp only [List.mem_cons, List.not_mem_nil, hbyte, or_false] at h
          omega
        . simp only [List.mem_cons, List.not_mem_nil, hbyte, or_false] at h
          omega
  . rintro rfl
    decide

theorem count_utf8EncodeChar (c : Char)
    : (String.utf8EncodeChar c).count newlineByte = if c = '\n' then 1 else 0 := by
  split
  . next h =>
    subst h
    decide
  . next h =>
    rw [List.count_eq_zero]
    rw [newlineByte_mem_utf8EncodeChar]
    exact h

theorem count_flatMap_utf8EncodeChar (s : List Char)
    : (s.flatMap String.utf8EncodeChar).count newlineByte = s.count '\n' := by
  induction s with
  | nil => rfl
  | cons c s ih =>
    rw [List.flatMap_cons]
    rw [List.count_append]
    rw [count_utf8EncodeChar]
    rw [ih]
    rw [List.count_cons]
    simp only [beq_iff_eq]
    omega

theorem newlineByte_mem_flatMap {s : List Char} : newlineByte ∈ s.flatMap String.utf8EncodeChar ↔ '\n' ∈ s := by
  simp [List.mem_flatMap, newlineByte_mem_utf8EncodeChar]

theorem CutsAfterLast.flatMap_utf8EncodeChar {s head tail : List Char} (h : CutsAfterLast '\n' s head tail)
    : CutsAfterLast newlineByte (s.flatMap String.utf8EncodeChar) (head.flatMap String.utf8EncodeChar)
        (tail.flatMap String.utf8EncodeChar) := by
  obtain ⟨rfl, hclosed, hnot⟩ := h
  refine ⟨?_, ?_, ?_⟩
  . rw [List.flatMap_append]
  . obtain rfl | ⟨before, rfl⟩ := hclosed
    . exact .inl rfl
    . rw [List.flatMap_append]
      exact .inr ⟨_, rfl⟩
  . rw [newlineByte_mem_flatMap]
    exact hnot

theorem afterLast_flatMap_utf8EncodeChar (s : List Char)
    : afterLast newlineByte (s.flatMap String.utf8EncodeChar)
        =
      (afterLast '\n' s).flatMap String.utf8EncodeChar := by
  obtain ⟨head, hcut⟩ := exists_cutsAfterLast '\n' s
  exact hcut.flatMap_utf8EncodeChar.afterLast_eq

theorem offsetsAfterNewlines_append (start : Nat) (s t : List Char)
    : offsetsAfterNewlines start (s ++ t)
        =
      offsetsAfterNewlines start s ++ offsetsAfterNewlines (start + byteLength s) t := by
  induction s generalizing start with
  | nil => rfl
  | cons c s ih =>
    simp only [List.cons_append, offsetsAfterNewlines, byteLength, ih]
    rw [Nat.add_assoc]
    split <;> rfl

theorem length_offsetsAfterNewlines (start : Nat) (s : List Char)
    : (offsetsAfterNewlines start s).length = s.count '\n' := by
  induction s generalizing start with
  | nil => rfl
  | cons c s ih =>
    rw [List.count_cons]
    simp only [offsetsAfterNewlines, beq_iff_eq]
    split
    . rw [List.length_cons]
      rw [ih]
    . rw [ih]
      rfl

theorem le_of_mem_offsetsAfterNewlines {start offset : Nat} {s : List Char}
    (h : offset ∈ offsetsAfterNewlines start s)
    : offset ≤ start + byteLength s := by
  induction s generalizing start with
  | nil => contradiction
  | cons c s ih =>
    have hrest (h : offset ∈ offsetsAfterNewlines (start + c.utf8Size) s)
        : offset ≤ start + byteLength (c :: s) := by
      have := ih h
      simp only [byteLength]
      omega
    unfold offsetsAfterNewlines at h
    dsimp only at h
    split at h
    . obtain rfl | h := List.mem_cons.1 h
      . simp only [byteLength]
        omega
      . exact hrest h
    . exact hrest h

theorem mem_offsetsAfterNewlines_iff {start offset : Nat} {s : List Char}
    : offset ∈ offsetsAfterNewlines start s
        ↔
      ∃ i, (s.flatMap String.utf8EncodeChar)[i]? = some newlineByte ∧ offset = start + i + 1 := by
  induction s generalizing start with
  | nil => simp [offsetsAfterNewlines]
  | cons c s ih =>
    rw [List.flatMap_cons]
    have hlength := String.length_utf8EncodeChar c
    -- The bytes of the other characters are counted from the end of `c` on.
    have hrest : offset ∈ offsetsAfterNewlines (start + c.utf8Size) s
        ↔
      ∃ i, c.utf8Size ≤ i
        ∧ (String.utf8EncodeChar c ++ s.flatMap String.utf8EncodeChar)[i]? = some newlineByte
        ∧ offset = start + i + 1 := by
      rw [ih]
      constructor
      . rintro ⟨i, hi, rfl⟩
        refine ⟨c.utf8Size + i, by omega, ?_, by omega⟩
        rw [List.getElem?_append_right (by omega)]
        rw [hlength]
        rw [Nat.add_sub_cancel_left]
        exact hi
      . rintro ⟨i, hle, hi, rfl⟩
        refine ⟨i - c.utf8Size, ?_, by omega⟩
        rw [List.getElem?_append_right (by omega)] at hi
        rw [hlength] at hi
        exact hi
    unfold offsetsAfterNewlines
    dsimp only
    split
    . next h =>
      subst h
      rw [List.mem_cons]
      rw [hrest]
      constructor
      . rintro (rfl | ⟨i, _, hi, rfl⟩)
        . exact ⟨0, rfl, rfl⟩
        . exact ⟨i, hi, rfl⟩
      . rintro ⟨i, hi, rfl⟩
        by_cases hzero : i = 0
        . subst hzero
          exact .inl rfl
        . have hsize : '\n'.utf8Size = 1 := rfl
          exact .inr ⟨i, by omega, hi, rfl⟩
    . next h =>
      rw [hrest]
      constructor
      . rintro ⟨i, _, hi, rfl⟩
        exact ⟨i, hi, rfl⟩
      . rintro ⟨i, hi, rfl⟩
        refine ⟨i, ?_, hi, rfl⟩
        by_contra hlt
        rw [List.getElem?_append_left (by omega)] at hi
        exact h (newlineByte_mem_utf8EncodeChar.1 (List.mem_of_getElem? hi))

end BackendPolicy
