import BackendPolicy.Proofs.Source.Points
import BackendPolicy.Proofs.Source.Position
import Mathlib.Order.Monotone.Defs

/-!
This module contains the order of the points of one source. Line and column of a boundary identify it, and they
are ordered as the boundaries are: this is `pos_identifies`. Inside a character the column counts bytes, so
points can run backwards from there to a boundary. `pos_le_pos_iff_not_runsBack` says exactly when they do.
-/

namespace BackendPolicy

def skipLines : Nat → List Char → List Char
  | 0, text => text
  | _ + 1, [] => []
  | n + 1, c :: rest => skipLines (if c = '\n' then n else n + 1) rest

/--
The offset that a line and a column stand for: skip the lines before it, then the characters before it.
-/
def offsetAt (text : List Char) (line column : Nat) : Nat :=
  byteLength text - byteLength ((skipLines (line - 1) text).drop (column - 1))

theorem skipLines_append_newline (before after : List Char)
    : skipLines (before.count '\n' + 1) (before ++ '\n' :: after) = after := by
  induction before with
  | nil => simp [skipLines]
  | cons c before ih =>
    rw [List.cons_append]
    rw [skipLines]
    by_cases h : c = '\n'
    . subst h
      rw [if_pos rfl]
      rw [List.count_cons_self]
      exact ih
    . rw [if_neg h]
      rw [List.count_cons_of_ne h]
      exact ih

theorem skipLines_append {before head line : List Char} (h : CutsAfterLast '\n' before head line)
    (after : List Char)
    : skipLines (before.count '\n') (before ++ after) = line ++ after := by
  obtain ⟨rfl, hclosed, hnot⟩ := h
  rw [List.count_append]
  rw [List.count_eq_zero.2 hnot]
  obtain rfl | ⟨start, rfl⟩ := hclosed
  . simp [skipLines]
  . have := skipLines_append_newline start (line ++ after)
    simpa using this

theorem offsetAt_append (before after : List Char)
    : offsetAt (before ++ after) (before.count '\n' + 1) ((afterLast '\n' before).length + 1)
        =
      byteLength before := by
  obtain ⟨head, hcut⟩ := exists_cutsAfterLast '\n' before
  unfold offsetAt
  rw [Nat.add_sub_cancel]
  rw [Nat.add_sub_cancel]
  rw [skipLines_append hcut]
  rw [List.drop_left]
  rw [byteLength_append]
  rw [Nat.add_sub_cancel]

/--
Whether the points of two offsets run backwards. The first offset is inside a character, the second one is a
boundary of the same line, and the line has fewer characters up to the second one than bytes up to the first.
-/
structure RunsBack (source : String) (a b : Nat) : Prop where
  inside : ¬ IsBoundary source.toList (min a (utf8Bytes source).length)
  same_line : newlineByte ∉ ((utf8Bytes source).take b).drop a
  fewer : ∃ before,
    before <+: source.toList
      ∧ byteLength before = min b (utf8Bytes source).length
      ∧ (afterLast '\n' before).length < (afterLast newlineByte ((utf8Bytes source).take a)).length

namespace LineIndex

variable (filename : String) {source : String} {a b : Nat}

theorem place_pos_lt (ha : IsBoundary source.toList a) (hb : IsBoundary source.toList b) (h : a < b)
    : ((ofSource filename source).pos a).place < ((ofSource filename source).pos b).place := by
  obtain ⟨before, hbefore, rfl⟩ := ha
  obtain ⟨other, hother, rfl⟩ := hb
  obtain ⟨middle, rfl⟩ := exists_append_of_le hbefore hother (Nat.le_of_lt h)
  rw [pos_of_isPrefix filename hbefore]
  rw [pos_of_isPrefix filename hother]
  rw [Pos.place_lt_place_iff]
  dsimp only
  rw [List.count_append]
  by_cases hnewline : '\n' ∈ middle
  . have := List.count_pos_iff.2 hnewline
    omega
  . -- On the same line every character between the two takes a column.
    have hmiddle : middle ≠ [] := by
      rintro rfl
      simp at h
    have := List.length_pos_iff.2 hmiddle
    rw [List.count_eq_zero.2 hnewline]
    rw [afterLast_append before hnewline]
    rw [List.length_append]
    omega

theorem pos_lt_pos_iff_of_isBoundary (ha : IsBoundary source.toList a) (hb : IsBoundary source.toList b)
    : (ofSource filename source).pos a < (ofSource filename source).pos b ↔ a < b := by
  constructor
  . intro h
    by_contra hle
    obtain rfl | hlt := Nat.eq_or_lt_of_le (Nat.le_of_not_lt hle)
    . exact lt_irrefl _ h
    . exact lt_asymm h (Pos.lt_of_place_lt (place_pos_lt filename hb ha hlt))
  . intro h
    exact Pos.lt_of_place_lt (place_pos_lt filename ha hb h)

theorem pos_le_pos_of_isBoundary (ha : IsBoundary source.toList a) (hb : IsBoundary source.toList b)
    (h : a ≤ b)
    : (ofSource filename source).pos a ≤ (ofSource filename source).pos b := by
  obtain rfl | hlt := Nat.eq_or_lt_of_le h
  . exact le_refl _
  . exact le_of_lt ((pos_lt_pos_iff_of_isBoundary filename ha hb).2 hlt)

theorem pos_le_pos_iff_of_isBoundary (ha : IsBoundary source.toList a) (hb : IsBoundary source.toList b)
    : (ofSource filename source).pos a ≤ (ofSource filename source).pos b ↔ a ≤ b := by
  constructor
  . intro h
    by_contra hlt
    have := (pos_lt_pos_iff_of_isBoundary filename hb ha).2 (Nat.lt_of_not_le hlt)
    exact not_lt_of_ge h this
  . exact pos_le_pos_of_isBoundary filename ha hb

theorem offsetAt_pos (h : IsBoundary source.toList a)
    : offsetAt source.toList ((ofSource filename source).pos a).line ((ofSource filename source).pos a).column
        =
      a := by
  obtain ⟨before, hbefore, rfl⟩ := h
  rw [pos_of_isPrefix filename hbefore]
  obtain ⟨after, hsource⟩ := hbefore
  rw [← hsource]
  apply offsetAt_append

/--
On boundaries line and column are strictly increasing, points are ordered as their offsets are, no two boundaries
share line and column, and the offset is recovered by skipping lines and characters.
-/
theorem pos_identifies (filename source : String)
    : let index := ofSource filename source
      let boundaries := {offset | IsBoundary source.toList offset}
      StrictMonoOn (fun offset => (index.pos offset).place) boundaries
        ∧ (∀ a ∈ boundaries, ∀ b ∈ boundaries, index.pos a ≤ index.pos b ↔ a ≤ b)
        ∧ Set.InjOn (fun offset => ((index.pos offset).line, (index.pos offset).column)) boundaries
        ∧ ∀ a ∈ boundaries, offsetAt source.toList (index.pos a).line (index.pos a).column = a := by
  intro index boundaries
  refine ⟨?_, ?_, ?_, ?_⟩
  . intro a ha b hb h
    exact place_pos_lt filename ha hb h
  . intro a ha b hb
    exact pos_le_pos_iff_of_isBoundary filename ha hb
  . intro a ha b hb h
    obtain ⟨hline, hcolumn⟩ := Prod.mk.inj h
    have hrecovered := offsetAt_pos filename ha
    rw [hline] at hrecovered
    rw [hcolumn] at hrecovered
    rw [offsetAt_pos filename hb] at hrecovered
    exact hrecovered.symm
  . intro a ha
    exact offsetAt_pos filename ha

theorem pos_identifies_across_lines
    : let index := ofSource "a.tf" "é\n€x"
      let boundaries := {offset | IsBoundary "é\n€x".toList offset}
      2 ∈ boundaries
        ∧ 6 ∈ boundaries
        ∧ (index.pos 2).place < (index.pos 6).place
        ∧ (index.pos 6 ≤ index.pos 2 ↔ 6 ≤ 2)
        ∧ ((index.pos 2).line, (index.pos 2).column) ≠ ((index.pos 6).line, (index.pos 6).column)
        ∧ offsetAt "é\n€x".toList (index.pos 6).line (index.pos 6).column = 6 := by
  intro index boundaries
  have h2 : 2 ∈ boundaries := by
    change IsBoundary _ _
    decide
  have h6 : 6 ∈ boundaries := by
    change IsBoundary _ _
    decide
  obtain ⟨hmono, hle, hinj, hrecover⟩ := pos_identifies "a.tf" "é\n€x"
  refine ⟨h2, h6, hmono h2 h6 (by omega), hle 6 h6 2 h2, ?_, hrecover 6 h6⟩
  intro heq
  have := hinj h2 h6 heq
  omega

theorem line_pos_eq (source : String) (offset : Nat)
    : ((ofSource filename source).pos offset).line
        =
      1 + ((utf8Bytes source).take offset).count newlineByte := by
  rw [(pos_isPlaceOf filename source offset).line_eq]
  rw [(pos_isPlaceOf filename source offset).byte_eq]
  rw [← List.take_eq_take_min]

theorem byte_pos_le (source : String) (h : a ≤ b)
    : ((ofSource filename source).pos a).byte ≤ ((ofSource filename source).pos b).byte := by
  rw [(pos_isPlaceOf filename source a).byte_eq]
  rw [(pos_isPlaceOf filename source b).byte_eq]
  omega

theorem take_append_between (bytes : List UInt8) (h : a ≤ b)
    : bytes.take b = bytes.take a ++ (bytes.take b).drop a := by
  conv => lhs; rw [← List.take_append_drop a (bytes.take b)]
  rw [List.take_take]
  rw [Nat.min_eq_left h]

theorem line_pos_eq_add (source : String) (h : a ≤ b)
    : ((ofSource filename source).pos b).line
        =
      ((ofSource filename source).pos a).line
        + (((utf8Bytes source).take b).drop a).count newlineByte := by
  rw [line_pos_eq]
  rw [line_pos_eq]
  rw [take_append_between _ h]
  rw [List.count_append]
  rw [← take_append_between _ h]
  omega

theorem line_pos_le (source : String) (h : a ≤ b)
    : ((ofSource filename source).pos a).line ≤ ((ofSource filename source).pos b).line := by
  rw [line_pos_eq_add filename source h]
  apply Nat.le_add_right

theorem pos_le_pos_iff_column (source : String) (h : a ≤ b)
    : (ofSource filename source).pos a ≤ (ofSource filename source).pos b
        ↔
      newlineByte ∈ ((utf8Bytes source).take b).drop a
        ∨ ((ofSource filename source).pos a).column ≤ ((ofSource filename source).pos b).column := by
  have hline := line_pos_eq_add filename source h
  have hbyte := byte_pos_le filename source h
  have hcount := List.count_pos_iff (a := newlineByte) (l := ((utf8Bytes source).take b).drop a)
  rw [Pos.le_iff]
  rw [← hcount]
  omega

theorem column_pos_of_inside (h : ¬ IsBoundary source.toList (min a (utf8Bytes source).length))
    : ((ofSource filename source).pos a).column
        =
      1 + (afterLast newlineByte ((utf8Bytes source).take a)).length := by
  obtain ⟨hbyte, _, _, hinside⟩ := pos_isPlaceOf filename source a
  rw [hbyte] at hinside
  rw [← List.take_eq_take_min] at hinside
  exact hinside h

theorem column_pos_le (source : String) (offset : Nat)
    : ((ofSource filename source).pos offset).column
        ≤
      1 + (afterLast newlineByte ((utf8Bytes source).take offset)).length := by
  by_cases h : IsBoundary source.toList (min offset (utf8Bytes source).length)
  . obtain ⟨before, hbefore, heq⟩ := h
    obtain ⟨hbyte, _, hboundary, _⟩ := pos_isPlaceOf filename source offset
    rw [hboundary before hbefore (heq.trans hbyte.symm)]
    have htake := take_utf8Bytes hbefore
    rw [heq] at htake
    rw [← List.take_eq_take_min] at htake
    rw [htake]
    rw [afterLast_flatMap_utf8EncodeChar]
    rw [length_flatMap_utf8EncodeChar]
    exact Nat.add_le_add_left (length_le_byteLength _) 1
  . exact Nat.le_of_eq (column_pos_of_inside filename h)

theorem length_afterLast_take_le (source : String) (h : a ≤ b)
    (hline : newlineByte ∉ ((utf8Bytes source).take b).drop a)
    : (afterLast newlineByte ((utf8Bytes source).take a)).length
        ≤
      (afterLast newlineByte ((utf8Bytes source).take b)).length := by
  rw [take_append_between _ h]
  rw [afterLast_append _ hline]
  rw [List.length_append]
  omega

theorem column_pos_le_iff (h : a ≤ b) (hline : newlineByte ∉ ((utf8Bytes source).take b).drop a)
    : ((ofSource filename source).pos a).column ≤ ((ofSource filename source).pos b).column
        ↔
      ¬ RunsBack source a b := by
  obtain ⟨hbyte, _, hboundary, _⟩ := pos_isPlaceOf filename source b
  rw [hbyte] at hboundary
  by_cases ha : IsBoundary source.toList (min a (utf8Bytes source).length)
  . refine iff_of_true ?_ (fun hback => hback.inside ha)
    by_cases hb : IsBoundary source.toList (min b (utf8Bytes source).length)
    . have hle := pos_le_pos_of_isBoundary filename ha hb (by omega)
      rw [length_utf8Bytes] at hle
      rw [← size_ofSource filename] at hle
      rw [pos_min] at hle
      rw [pos_min] at hle
      rw [pos_le_pos_iff_column filename source h] at hle
      exact hle.resolve_left hline
    . have hcolumn := column_pos_le filename source a
      have hlength := length_afterLast_take_le source h hline
      rw [column_pos_of_inside filename hb]
      omega
  . rw [column_pos_of_inside filename ha]
    by_cases hb : IsBoundary source.toList (min b (utf8Bytes source).length)
    . obtain ⟨before, hbefore, heq⟩ := hb
      rw [hboundary before hbefore heq]
      constructor
      . rintro hle ⟨_, _, other, hother, hsame, hfewer⟩
        have := hboundary other hother hsame
        rw [hboundary before hbefore heq] at this
        omega
      . intro hback
        by_contra hlt
        exact hback ⟨ha, hline, before, hbefore, heq, by omega⟩
    . refine iff_of_true ?_ ?_
      . have := length_afterLast_take_le source h hline
        rw [column_pos_of_inside filename hb]
        omega
      . rintro ⟨_, _, before, hbefore, heq, _⟩
        exact hb ⟨before, hbefore, heq⟩

theorem pos_le_pos_iff (h : a ≤ b)
    : (ofSource filename source).pos a ≤ (ofSource filename source).pos b ↔ ¬ RunsBack source a b := by
  rw [pos_le_pos_iff_column filename source h]
  by_cases hline : newlineByte ∈ ((utf8Bytes source).take b).drop a
  . exact iff_of_true (.inl hline) (fun hback => hback.same_line hline)
  . rw [column_pos_le_iff filename h hline]
    exact or_iff_right hline

/--
Points run backwards from an offset to a later one exactly as `RunsBack` says, and so do the ends of the range of
a span. Their lines and bytes never do.
-/
theorem pos_le_pos_iff_not_runsBack (filename source : String) (a b : Nat) (h : a ≤ b)
    : let index := ofSource filename source
      (index.pos a ≤ index.pos b ↔ ¬ RunsBack source a b)
        ∧ ((index.range (some ⟨a, b⟩)).start ≤ (index.range (some ⟨a, b⟩)).stop ↔ ¬ RunsBack source a b)
        ∧ (index.pos a).line ≤ (index.pos b).line
        ∧ (index.pos a).byte ≤ (index.pos b).byte := by
  intro index
  exact ⟨pos_le_pos_iff filename h, pos_le_pos_iff filename h, line_pos_le filename source h,
    byte_pos_le filename source h⟩

theorem pos_le_pos_iff_not_runsBack_inside_character
    : let index := ofSource "a.tf" "é\n€€"
      4 ≤ 6
        ∧ (index.pos 4 ≤ index.pos 6 ↔ ¬ RunsBack "é\n€€" 4 6)
        ∧ ((index.range (some ⟨4, 6⟩)).start ≤ (index.range (some ⟨4, 6⟩)).stop ↔ ¬ RunsBack "é\n€€" 4 6)
        ∧ ¬ RunsBack "é\n€€" 4 6
        ∧ (index.pos 5 ≤ index.pos 6 ↔ ¬ RunsBack "é\n€€" 5 6)
        ∧ RunsBack "é\n€€" 5 6 := by
  intro index
  obtain ⟨hpos, hrange, _⟩ := pos_le_pos_iff_not_runsBack "a.tf" "é\n€€" 4 6 (by omega)
  obtain ⟨hback, _⟩ := pos_le_pos_iff_not_runsBack "a.tf" "é\n€€" 5 6 (by omega)
  refine ⟨by omega, hpos, hrange, ?_, hback, ?_⟩
  . exact hpos.1 (by decide +kernel)
  . by_contra hnot
    exact absurd (hback.2 hnot) (by decide +kernel)

theorem pos_runs_backwards
    : let index := ofSource "a.tf" "€"
      2 ≤ 3
        ∧ ¬ index.pos 2 ≤ index.pos 3
        ∧ ¬ (index.range (some ⟨2, 3⟩)).start ≤ (index.range (some ⟨2, 3⟩)).stop := by
  decide +kernel

end LineIndex

end BackendPolicy
