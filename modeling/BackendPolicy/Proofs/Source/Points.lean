import BackendPolicy.Proofs.Source.LineIndex
import BackendPolicy.Proofs.Text.Lines

/-!
This module contains the exact points of offsets, stated on the bytes of a source and without the table of line
starts. The main statement is `pos_exact`: the point of every offset is the one that counting newlines gives,
and the table holds exactly the offsets at which lines start.
-/

namespace BackendPolicy

/--
Whether a point is the place of an offset in a source. An offset past the end stands for the end. The line
counts the newlines before it. The column counts from the last of them, or from the start of the source: it
counts characters at a boundary, and bytes inside a character.
-/
structure IsPlaceOf (source : String) (offset : Nat) (p : Pos) : Prop where
  byte_eq : p.byte = min offset (utf8Bytes source).length
  line_eq : p.line = 1 + ((utf8Bytes source).take p.byte).count newlineByte
  column_eq : ∀ before,
    before <+: source.toList → byteLength before = p.byte → p.column = 1 + (afterLast '\n' before).length
  column_eq_of_inside :
    ¬ IsBoundary source.toList p.byte →
    p.column = 1 + (afterLast newlineByte ((utf8Bytes source).take p.byte)).length

/--
Whether a table holds the offsets at which the lines of a source start, in order.
-/
structure AreLineStarts (source : String) (table : Array Nat) : Prop where
  first : table[0]? = some 0
  increasing : table.toList.Pairwise (· < ·)
  mem_iff : ∀ start,
    start ∈ table ↔ start = 0 ∨ ∃ i, (utf8Bytes source)[i]? = some newlineByte ∧ start = i + 1

theorem IsPlaceOf.unique {source : String} {offset : Nat} {p q : Pos} (hp : IsPlaceOf source offset p)
    (hq : IsPlaceOf source offset q)
    : p = q := by
  have hbyte := hp.byte_eq.trans hq.byte_eq.symm
  have hline : p.line = q.line := by
    rw [hp.line_eq]
    rw [hq.line_eq]
    rw [hbyte]
  have hcolumn : p.column = q.column := by
    by_cases h : IsBoundary source.toList p.byte
    . obtain ⟨before, hbefore, heq⟩ := h
      rw [hp.column_eq before hbefore heq]
      rw [hq.column_eq before hbefore (heq.trans hbyte)]
    . rw [hp.column_eq_of_inside h]
      rw [hbyte] at h
      rw [hq.column_eq_of_inside h]
      rw [hbyte]
  cases p
  cases q
  rw [Pos.mk.injEq]
  exact ⟨hline, hcolumn, hbyte⟩

theorem take_utf8Bytes {source : String} {before : List Char} (h : before <+: source.toList)
    : (utf8Bytes source).take (byteLength before) = before.flatMap String.utf8EncodeChar := by
  obtain ⟨after, h⟩ := h
  rw [utf8Bytes_eq_flatMap]
  rw [← h]
  rw [List.flatMap_append]
  rw [List.take_append_of_le_length (Nat.le_of_eq (length_flatMap_utf8EncodeChar before).symm)]
  rw [← length_flatMap_utf8EncodeChar]
  rw [List.take_length]

namespace IsInside

variable {source : String} {before : List Char} {c : Char} {offset : Nat}

theorem ne_newline (h : IsInside source.toList before c offset) : c ≠ '\n' := by
  rintro rfl
  have hlower := h.lower
  have hupper := h.upper
  have : '\n'.utf8Size = 1 := rfl
  omega

theorem exists_take_utf8Bytes (h : IsInside source.toList before c offset)
    : ∃ bytes,
        (utf8Bytes source).take offset = before.flatMap String.utf8EncodeChar ++ bytes
          ∧ bytes.length = offset - byteLength before
          ∧ newlineByte ∉ bytes := by
  have hlower := h.lower
  have hupper := h.upper
  obtain ⟨after, hsource⟩ := h.begins
  refine ⟨(String.utf8EncodeChar c).take (offset - byteLength before), ?_, ?_, ?_⟩
  . have hlength := length_flatMap_utf8EncodeChar before
    rw [utf8Bytes_eq_flatMap]
    rw [← hsource]
    simp only [List.flatMap_append, List.append_assoc, List.flatMap_cons, List.flatMap_nil,
      List.append_nil]
    rw [List.take_append]
    rw [List.take_of_length_le (by omega)]
    rw [hlength]
    rw [List.take_append_of_le_length]
    rw [String.length_utf8EncodeChar]
    omega
  . rw [List.length_take]
    rw [String.length_utf8EncodeChar]
    omega
  . intro hmem
    exact h.ne_newline (newlineByte_mem_utf8EncodeChar.1 (List.mem_of_mem_take hmem))

end IsInside

namespace LineIndex

variable (filename : String) {source : String} {before after : List Char} {offset : Nat}

theorem size_ofSource (source : String) : (ofSource filename source).size = byteLength source.toList := rfl

theorem pos_min (index : LineIndex) (offset : Nat) : index.pos (min offset index.size) = index.pos offset := by
  unfold pos
  rw [Nat.min_assoc]
  rw [Nat.min_self]

theorem toList_lineStarts (h : source.toList = before ++ after)
    : (ofSource filename source).lineStarts.toList
        =
      (0 :: offsetsAfterNewlines 0 before) ++ offsetsAfterNewlines (byteLength before) after := by
  unfold ofSource
  dsimp only
  rw [h]
  rw [offsetsAfterNewlines_append]
  rw [Nat.zero_add]
  rfl

theorem countUpTo_lineStarts (h : source.toList = before ++ after) (hlower : byteLength before ≤ offset)
    (hupper : ∀ start ∈ offsetsAfterNewlines (byteLength before) after, offset < start)
    : countUpTo (ofSource filename source).lineStarts offset = before.count '\n' + 1 := by
  have hsorted := (pairwise_lineStarts filename source).imp Nat.le_of_lt
  rw [countUpTo_eq_countP hsorted]
  rw [toList_lineStarts filename h]
  rw [List.countP_append]
  have hbefore : (0 :: offsetsAfterNewlines 0 before).countP (· ≤ offset) = before.count '\n' + 1 := by
    rw [List.countP_eq_length.2]
    . rw [List.length_cons]
      rw [length_offsetsAfterNewlines]
    . intro start hstart
      rw [decide_eq_true_eq]
      obtain rfl | hstart := List.mem_cons.1 hstart
      . omega
      . have := le_of_mem_offsetsAfterNewlines hstart
        omega
  have hafter : (offsetsAfterNewlines (byteLength before) after).countP (· ≤ offset) = 0 := by
    rw [List.countP_eq_zero]
    intro start hstart
    have := hupper start hstart
    rw [decide_eq_true_eq]
    omega
  rw [hbefore]
  rw [hafter]

theorem getElem?_lineStarts {head line : List Char} (h : source.toList = before ++ after)
    (hcut : CutsAfterLast '\n' before head line)
    : (ofSource filename source).lineStarts[before.count '\n']? = some (byteLength head) := by
  obtain ⟨rfl, hclosed, hnot⟩ := hcut
  rw [← Array.getElem?_toList]
  rw [List.append_assoc] at h
  rw [toList_lineStarts filename h]
  rw [List.count_append]
  rw [List.count_eq_zero.2 hnot]
  obtain rfl | ⟨start, rfl⟩ := hclosed
  . rfl
  . have hsize : '\n'.utf8Size = 1 := rfl
    simp [offsetsAfterNewlines_append, byteLength_append, length_offsetsAfterNewlines, offsetsAfterNewlines,
      byteLength, hsize]

theorem pos_eq {head line : List Char} (h : source.toList = before ++ after)
    (hcut : CutsAfterLast '\n' before head line) (hlower : byteLength before ≤ offset)
    (hsize : offset ≤ byteLength source.toList)
    (hupper : ∀ start ∈ offsetsAfterNewlines (byteLength before) after, offset < start)
    : (ofSource filename source).pos offset
        =
      ⟨before.count '\n' + 1,
        (charsWithin (offset - byteLength head) (line ++ after)).getD (offset - byteLength head) + 1,
        offset⟩ := by
  have hdrop : dropBytes (byteLength head) (ofSource filename source).text = line ++ after := by
    change dropBytes (byteLength head) source.toList = _
    rw [h]
    rw [hcut.eq_append]
    rw [List.append_assoc]
    apply dropBytes_append
  unfold pos
  rw [size_ofSource]
  rw [Nat.min_eq_left hsize]
  simp only [countUpTo_lineStarts filename h hlower hupper, Nat.add_sub_cancel,
    getElem?_lineStarts filename h hcut, Option.getD_some, hdrop]

theorem pos_of_isPrefix (h : before <+: source.toList)
    : (ofSource filename source).pos (byteLength before)
        =
      ⟨before.count '\n' + 1, (afterLast '\n' before).length + 1, byteLength before⟩ := by
  obtain ⟨head, hcut⟩ := exists_cutsAfterLast '\n' before
  have hhead := congrArg byteLength hcut.eq_append
  rw [byteLength_append] at hhead
  have hsize := byteLength_le_of_isPrefix h
  obtain ⟨after, h⟩ := h
  rw [pos_eq filename h.symm hcut (Nat.le_refl _) hsize (fun start => lt_of_mem_offsetsAfterNewlines)]
  have hdistance : byteLength before - byteLength head = byteLength (afterLast '\n' before) := by omega
  rw [hdistance]
  rw [charsWithin_append]
  rfl

theorem pos_of_isInside {c : Char} (h : IsInside source.toList before c offset)
    : (ofSource filename source).pos offset
        =
      ⟨before.count '\n' + 1, byteLength (afterLast '\n' before) + (offset - byteLength before) + 1, offset⟩ := by
  have hlower := h.lower
  have hupper := h.upper
  have hsize := byteLength_le_of_isPrefix h.begins
  have hc := h.ne_newline
  obtain ⟨after, hsource⟩ := h.begins
  obtain ⟨head, hcut⟩ := exists_cutsAfterLast '\n' before
  have hhead := congrArg byteLength hcut.eq_append
  rw [byteLength_append] at hhead hsize
  simp only [byteLength] at hsize
  have hsource : source.toList = before ++ c :: after := by
    rw [← hsource]
    simp
  rw [pos_eq filename hsource hcut (by omega) (by omega)]
  . rw [charsWithin_eq_none (by omega) (by omega)]
    have hdistance : offset - byteLength head
        = byteLength (afterLast '\n' before) + (offset - byteLength before) := by
      omega
    rw [hdistance]
    rfl
  . intro start hstart
    simp only [offsetsAfterNewlines, hc, ↓reduceIte] at hstart
    have := lt_of_mem_offsetsAfterNewlines hstart
    omega

theorem pos_isPlaceOf (source : String) (offset : Nat)
    : IsPlaceOf source offset ((ofSource filename source).pos offset) := by
  have hlength := length_utf8Bytes source
  have hbyte : ((ofSource filename source).pos offset).byte = min offset (utf8Bytes source).length := by
    rw [hlength]
    rfl
  rw [← pos_min] at hbyte ⊢
  rw [size_ofSource] at hbyte ⊢
  obtain ⟨before, hbefore, heq⟩ | ⟨before, c, hinside⟩ :=
    isBoundary_or_isInside (Nat.min_le_right offset (byteLength source.toList))
  . rw [← heq] at hbyte ⊢
    rw [pos_of_isPrefix filename hbefore] at hbyte ⊢
    refine ⟨hbyte, ?_, ?_, ?_⟩
    . rw [take_utf8Bytes hbefore]
      rw [count_flatMap_utf8EncodeChar]
      apply Nat.add_comm
    . intro other hother hsame
      obtain ⟨middle, rfl⟩ := exists_append_of_le hbefore hother (Nat.le_of_eq hsame.symm)
      rw [byteLength_append] at hsame
      have hmiddle := length_le_byteLength middle
      have : middle = [] := List.eq_nil_of_length_eq_zero (by simp only at hsame; omega)
      subst this
      rw [List.append_nil]
      apply Nat.add_comm
    . intro hnot
      exact absurd ⟨before, hbefore, rfl⟩ hnot
  . rw [pos_of_isInside filename hinside] at hbyte ⊢
    obtain ⟨bytes, htake, hcount, hnewline⟩ := hinside.exists_take_utf8Bytes
    refine ⟨hbyte, ?_, ?_, ?_⟩
    . rw [htake]
      rw [List.count_append]
      rw [count_flatMap_utf8EncodeChar]
      rw [List.count_eq_zero.2 hnewline]
      apply Nat.add_comm
    . intro other hother hsame
      exact absurd ⟨other, hother, hsame⟩ hinside.not_isBoundary
    . intro _
      rw [htake]
      rw [afterLast_append _ hnewline]
      rw [afterLast_flatMap_utf8EncodeChar]
      rw [List.length_append]
      rw [length_flatMap_utf8EncodeChar]
      rw [hcount]
      apply Nat.add_comm

theorem areLineStarts_ofSource (source : String)
    : AreLineStarts source (ofSource filename source).lineStarts := by
  refine ⟨getElem?_zero_lineStarts filename source, pairwise_lineStarts filename source, ?_⟩
  intro start
  rw [← Array.mem_toList_iff]
  unfold ofSource
  rw [List.mem_cons]
  rw [mem_offsetsAfterNewlines_iff]
  rw [utf8Bytes_eq_flatMap]
  simp only [Nat.zero_add]

theorem countUpTo_lineStarts_eq_count (source : String) (offset : Nat)
    : countUpTo (ofSource filename source).lineStarts offset
        =
      1 + ((utf8Bytes source).take offset).count newlineByte := by
  by_cases hle : offset ≤ (utf8Bytes source).length
  . obtain ⟨hbyte, hline, _, _⟩ := pos_isPlaceOf filename source offset
    rw [line_pos] at hline
    rw [hbyte] at hline
    rw [Nat.min_eq_left hle] at hline
    exact hline
  . have hlength := length_utf8Bytes source
    rw [List.take_of_length_le (by omega)]
    rw [utf8Bytes_eq_flatMap]
    rw [count_flatMap_utf8EncodeChar]
    rw [countUpTo_lineStarts filename (List.append_nil _).symm (by omega)]
    . apply Nat.add_comm
    . intro start hstart
      contradiction

/--
The point of an offset is the place of the offset and nothing else. The table holds the offsets at which lines
start, and bisection in it agrees with a count of the entries and with a count of the newlines.
-/
theorem pos_exact (filename source : String)
    : (∀ offset p, (ofSource filename source).pos offset = p ↔ IsPlaceOf source offset p)
        ∧ AreLineStarts source (ofSource filename source).lineStarts
        ∧ ∀ offset,
            countUpTo (ofSource filename source).lineStarts offset
                = (ofSource filename source).lineStarts.toList.countP (· ≤ offset)
              ∧ countUpTo (ofSource filename source).lineStarts offset
                = 1 + ((utf8Bytes source).take offset).count newlineByte := by
  refine ⟨?_, areLineStarts_ofSource filename source, ?_⟩
  . intro offset p
    constructor
    . rintro rfl
      apply pos_isPlaceOf
    . intro hp
      exact (pos_isPlaceOf filename source offset).unique hp
  . intro offset
    have hsorted := (pairwise_lineStarts filename source).imp Nat.le_of_lt
    exact ⟨countUpTo_eq_countP hsorted offset, countUpTo_lineStarts_eq_count filename source offset⟩

example
    : [0, 2, 3, 9, 4].map (LineIndex.ofSource "a.tf" "é\n€").pos
        = [⟨1, 1, 0⟩, ⟨1, 2, 2⟩, ⟨2, 1, 3⟩, ⟨2, 2, 6⟩, ⟨2, 2, 4⟩] := by
  decide +kernel

end LineIndex

end BackendPolicy
