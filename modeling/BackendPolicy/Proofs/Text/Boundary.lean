import BackendPolicy.Proofs.Data.Bytes
import BackendPolicy.Source.LineIndex

/-!
This module contains the boundaries of a text, which are the byte offsets between its characters and at its
ends. An offset that is no boundary is inside a character. A text that is cut at a boundary has as many bytes
as both parts together, and each part is found again by counting its bytes.
-/

namespace BackendPolicy

/--
Whether the characters before a byte offset of a text are whole.
-/
def IsBoundary (text : List Char) (offset : Nat) : Prop :=
  ∃ before, before <+: text ∧ byteLength before = offset

/--
Whether a byte offset is inside the character `c`, which follows the characters `before`.
-/
structure IsInside (text before : List Char) (c : Char) (offset : Nat) : Prop where
  begins : before ++ [c] <+: text
  lower : byteLength before < offset
  upper : offset < byteLength before + c.utf8Size

theorem byteLength_append (s t : List Char) : byteLength (s ++ t) = byteLength s + byteLength t := by
  induction s with
  | nil => simp [byteLength]
  | cons c s ih =>
    simp only [List.cons_append, byteLength, ih]
    omega

theorem length_le_byteLength (s : List Char) : s.length ≤ byteLength s := by
  induction s with
  | nil => exact Nat.le_refl _
  | cons c s ih =>
    have := c.utf8Size_pos
    simp only [List.length_cons, byteLength]
    omega

theorem length_flatMap_utf8EncodeChar (s : List Char)
    : (s.flatMap String.utf8EncodeChar).length = byteLength s := by
  induction s with
  | nil => rfl
  | cons c s ih =>
    rw [List.flatMap_cons]
    rw [List.length_append]
    rw [String.length_utf8EncodeChar]
    rw [ih]
    rfl

theorem length_utf8Bytes (s : String) : (utf8Bytes s).length = byteLength s.toList := by
  rw [utf8Bytes_eq_flatMap]
  apply length_flatMap_utf8EncodeChar

theorem byteLength_le_of_isPrefix {s t : List Char} (h : s <+: t) : byteLength s ≤ byteLength t := by
  obtain ⟨rest, rfl⟩ := h
  rw [byteLength_append]
  omega

theorem takeBytes_append (before after : List Char)
    : takeBytes (byteLength before) (before ++ after) = before := by
  induction before with
  | nil =>
    cases after with
    | nil => rfl
    | cons c after =>
      have := c.utf8Size_pos
      simp only [byteLength, List.nil_append, takeBytes]
      rw [if_neg (by omega)]
  | cons c before ih =>
    simp only [byteLength, List.cons_append, takeBytes]
    rw [if_pos (by omega)]
    rw [Nat.add_sub_cancel_left]
    rw [ih]

theorem takeBytes_isPrefix (n : Nat) (text : List Char) : takeBytes n text <+: text := by
  induction text generalizing n with
  | nil => exact List.nil_prefix
  | cons c text ih =>
    unfold takeBytes
    split
    . rw [List.prefix_cons_inj]
      apply ih
    . exact List.nil_prefix

theorem isBoundary_iff {text : List Char} {offset : Nat}
    : IsBoundary text offset ↔ byteLength (takeBytes offset text) = offset := by
  constructor
  . rintro ⟨before, ⟨after, rfl⟩, rfl⟩
    rw [takeBytes_append]
  . intro h
    exact ⟨_, takeBytes_isPrefix offset text, h⟩

instance (text : List Char) (offset : Nat) : Decidable (IsBoundary text offset) :=
  decidable_of_iff _ isBoundary_iff.symm

theorem IsBoundary.le {text : List Char} {offset : Nat} (h : IsBoundary text offset)
    : offset ≤ byteLength text := by
  obtain ⟨before, hbefore, rfl⟩ := h
  exact byteLength_le_of_isPrefix hbefore

theorem isBoundary_byteLength (text : List Char) : IsBoundary text (byteLength text) :=
  ⟨text, List.prefix_rfl, rfl⟩

theorem exists_append_of_le {text s t : List Char} (hs : s <+: text) (ht : t <+: text)
    (hle : byteLength s ≤ byteLength t)
    : ∃ middle, t = s ++ middle := by
  obtain h | ⟨rest, rfl⟩ := List.prefix_or_prefix_of_prefix hs ht
  . obtain ⟨middle, rfl⟩ := h
    exact ⟨middle, rfl⟩
  . rw [byteLength_append] at hle
    have hrest := length_le_byteLength rest
    have : rest = [] := List.eq_nil_of_length_eq_zero (by omega)
    subst this
    exact ⟨[], by simp⟩

theorem IsInside.not_isBoundary {text before : List Char} {c : Char} {offset : Nat}
    (h : IsInside text before c offset)
    : ¬ IsBoundary text offset := by
  rintro ⟨other, hother, rfl⟩
  obtain ⟨hbegins, hlower, hupper⟩ := h
  have hbefore : before <+: text := (List.prefix_append _ _).trans hbegins
  obtain ⟨middle, rfl⟩ := exists_append_of_le hbefore hother (Nat.le_of_lt hlower)
  rw [byteLength_append] at hlower hupper
  -- What is between the two is shorter than `c`, but it starts with `c`.
  cases middle with
  | nil =>
    simp only [byteLength] at hlower
    omega
  | cons d middle =>
    obtain ⟨after, rfl⟩ := hbegins
    obtain ⟨rest, hrest⟩ := hother
    simp only [List.append_assoc, List.append_cancel_left_eq, List.cons_append, List.nil_append,
      List.cons.injEq] at hrest
    obtain ⟨rfl, _⟩ := hrest
    simp only [byteLength] at hupper
    omega

theorem isBoundary_or_isInside {text : List Char} {offset : Nat} (h : offset ≤ byteLength text)
    : IsBoundary text offset ∨ ∃ before c, IsInside text before c offset := by
  induction text generalizing offset with
  | nil =>
    simp only [byteLength, Nat.le_zero] at h
    subst h
    exact .inl (isBoundary_byteLength [])
  | cons d text ih =>
    simp only [byteLength] at h
    by_cases hzero : offset = 0
    . subst hzero
      exact .inl ⟨[], List.nil_prefix, rfl⟩
    . by_cases hlt : offset < d.utf8Size
      . refine .inr ⟨[], d, ?_, ?_, ?_⟩
        . exact ⟨text, rfl⟩
        . simp only [byteLength]
          omega
        . simp only [byteLength]
          omega
      . have hrest : offset - d.utf8Size ≤ byteLength text := by omega
        obtain ⟨before, hbefore, heq⟩ | ⟨before, c, hbegins, hlower, hupper⟩ := ih hrest
        . refine .inl ⟨d :: before, ?_, ?_⟩
          . rw [List.prefix_cons_inj]
            exact hbefore
          . simp only [byteLength]
            omega
        . refine .inr ⟨d :: before, c, ?_, ?_, ?_⟩
          . rw [List.cons_append]
            rw [List.prefix_cons_inj]
            exact hbegins
          . simp only [byteLength]
            omega
          . simp only [byteLength]
            omega

theorem dropBytes_append (before after : List Char)
    : dropBytes (byteLength before) (before ++ after) = after := by
  induction before with
  | nil => cases after <;> rfl
  | cons c before ih =>
    have := c.utf8Size_pos
    simp only [byteLength, List.cons_append, dropBytes]
    rw [if_neg (by omega)]
    rw [Nat.add_sub_cancel_left]
    rw [ih]

theorem charsWithin_cons {c : Char} {n : Nat} (h : c.utf8Size ≤ n) (text : List Char)
    : charsWithin n (c :: text) = (charsWithin (n - c.utf8Size) text).map (· + 1) := by
  have := c.utf8Size_pos
  obtain ⟨n, rfl⟩ : ∃ m, n = m + 1 := ⟨n - 1, by omega⟩
  rw [charsWithin]
  rw [if_pos h]

theorem charsWithin_append (line after : List Char)
    : charsWithin (byteLength line) (line ++ after) = some line.length := by
  induction line with
  | nil => simp [byteLength, charsWithin]
  | cons c line ih =>
    rw [List.cons_append]
    rw [charsWithin_cons (by simp only [byteLength]; omega)]
    simp only [byteLength, Nat.add_sub_cancel_left, ih]
    rfl

theorem charsWithin_eq_none {line after : List Char} {c : Char} {n : Nat} (hlower : byteLength line < n)
    (hupper : n < byteLength line + c.utf8Size)
    : charsWithin n (line ++ c :: after) = none := by
  induction line generalizing n with
  | nil =>
    obtain ⟨n, rfl⟩ : ∃ m, n = m + 1 := ⟨n - 1, by omega⟩
    simp only [byteLength] at hupper
    rw [List.nil_append]
    rw [charsWithin]
    rw [if_neg (by omega)]
  | cons d line ih =>
    simp only [byteLength] at hlower hupper
    rw [List.cons_append]
    rw [charsWithin_cons (by omega)]
    rw [ih (by omega) (by omega)]
    rfl

end BackendPolicy
