import BackendPolicy.Proofs.Data.Bisect
import BackendPolicy.Source.LineIndex
import Mathlib.Data.List.Forall2

/-!
This module contains the table of line starts of an indexed text. It begins with zero and increases, so every
offset has a line that starts at it or before it.
-/

namespace BackendPolicy

theorem lt_of_mem_offsetsAfterNewlines {start offset : Nat} {text : List Char}
    (h : offset ∈ offsetsAfterNewlines start text)
    : start < offset := by
  induction text generalizing start with
  | nil => contradiction
  | cons c rest ih =>
    have hsize := c.utf8Size_pos
    have hrest (h : offset ∈ offsetsAfterNewlines (start + c.utf8Size) rest) : start < offset := by
      have := ih h
      omega
    unfold offsetsAfterNewlines at h
    dsimp only at h
    split at h
    . obtain rfl | h := List.mem_cons.1 h
      . omega
      . exact hrest h
    . exact hrest h

theorem pairwise_offsetsAfterNewlines (start : Nat) (text : List Char)
    : (offsetsAfterNewlines start text).Pairwise (· < ·) := by
  induction text generalizing start with
  | nil => exact .nil
  | cons c rest ih =>
    unfold offsetsAfterNewlines
    dsimp only
    split
    . rw [List.pairwise_cons]
      refine ⟨?_, ih _⟩
      intro offset
      exact lt_of_mem_offsetsAfterNewlines
    . apply ih

/--
Whether two texts have the same shape: characters of the same sizes, and newlines at the same places.
-/
def SameShape (text other : List Char) : Prop :=
  List.Forall₂ (fun c d => c.utf8Size = d.utf8Size ∧ (c = '\n' ↔ d = '\n')) text other

namespace SameShape

variable {text other : List Char} (h : SameShape text other)
include h

theorem byteLength_eq : byteLength text = byteLength other := by
  induction h with
  | nil => rfl
  | cons hhead _ ih =>
    unfold byteLength
    rw [hhead.1]
    rw [ih]

theorem offsetsAfterNewlines_eq (start : Nat) : offsetsAfterNewlines start text = offsetsAfterNewlines start other := by
  induction h generalizing start with
  | nil => rfl
  | cons hhead _ ih =>
    unfold offsetsAfterNewlines
    simp only [hhead.1, hhead.2, ih]

theorem dropBytes (n : Nat) : SameShape (dropBytes n text) (dropBytes n other) := by
  induction h generalizing n with
  | nil => exact .nil
  | cons hhead htail ih =>
    unfold BackendPolicy.dropBytes
    split
    . exact .cons hhead htail
    . rw [hhead.1]
      exact ih _

theorem charsWithin_eq (n : Nat) : charsWithin n text = charsWithin n other := by
  induction h generalizing n with
  | nil => rfl
  | cons hhead _ ih =>
    cases n with
    | zero => rfl
    | succ n =>
      unfold charsWithin
      simp only [hhead.1, ih]

end SameShape

namespace LineIndex

theorem pos_ofSource_congr {source other : String} (h : SameShape source.toList other.toList)
    (filename : String) (offset : Nat)
    : (ofSource filename source).pos offset = (ofSource filename other).pos offset := by
  unfold pos size ofSource
  simp only [h.byteLength_eq, h.offsetsAfterNewlines_eq, (h.dropBytes _).charsWithin_eq]

theorem range_ofSource_congr {source other : String} (h : SameShape source.toList other.toList)
    (filename : String) (span : Option Span)
    : (ofSource filename source).range span = (ofSource filename other).range span := by
  unfold range
  simp only [pos_ofSource_congr h]
  rfl

/--
Whether the line that an offset is in is in the table, and starts at the offset or before it.
-/
def Locates (index : LineIndex) (offset : Nat) : Prop :=
  0 < (index.pos offset).line
    ∧ ∃ start,
        index.lineStarts[(index.pos offset).line - 1]? = some start ∧ start ≤ (index.pos offset).byte

variable (filename source : String)

theorem pairwise_lineStarts : (ofSource filename source).lineStarts.toList.Pairwise (· < ·) := by
  unfold ofSource
  rw [List.pairwise_cons]
  refine ⟨?_, pairwise_offsetsAfterNewlines _ _⟩
  intro offset
  exact lt_of_mem_offsetsAfterNewlines

theorem getElem?_zero_lineStarts : (ofSource filename source).lineStarts[0]? = some 0 := by
  simp [ofSource]

theorem line_pos (index : LineIndex) (offset : Nat)
    : (index.pos offset).line = countUpTo index.lineStarts (index.pos offset).byte := rfl

theorem ofSource_locates (offset : Nat) : (ofSource filename source).Locates offset := by
  have hsorted := (pairwise_lineStarts filename source).imp Nat.le_of_lt
  obtain ⟨hpos, hzero⟩ := Array.getElem?_eq_some_iff.1 (getElem?_zero_lineStarts filename source)
  unfold Locates
  rw [line_pos]
  generalize ((ofSource filename source).pos offset).byte = byte
  have hfirst : 0 < countUpTo (ofSource filename source).lineStarts byte := by
    rw [lt_countUpTo_iff hsorted byte hpos]
    omega
  have hlast : countUpTo (ofSource filename source).lineStarts byte - 1
      < (ofSource filename source).lineStarts.size := by
    have := countUpTo_le_size (ofSource filename source).lineStarts byte
    omega
  refine ⟨hfirst, _, Array.getElem?_eq_getElem hlast, ?_⟩
  rw [← lt_countUpTo_iff hsorted byte hlast]
  omega

end LineIndex

end BackendPolicy
