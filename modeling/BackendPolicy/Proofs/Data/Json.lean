import BackendPolicy.Data.Json
import Mathlib.Data.List.Forall2

/-!
This module contains the written form of documents: how strings are quoted and how the items of an array follow
each other.
-/

namespace BackendPolicy.Json

def shortNames : List (Char × Char) :=
  [('"', '"'), ('\\', '\\'), ('\n', 'n'), ('\r', 'r'), ('\t', 't'), ('\x08', 'b'), ('\x0c', 'f')]

/--
How a character is written between quotes. A control character without a name is written as four hexadecimal
digits.
-/
inductive IsWritten : Char → List Char → Prop where
  | named {c name : Char} (hname : (c, name) ∈ shortNames) : IsWritten c ['\\', name]
  | numbered {c : Char} (hname : ∀ name, (c, name) ∉ shortNames) (hcontrol : c.toNat < 32)
      : IsWritten c ('\\' :: 'u' :: (Nat.toDigits 16 c.toNat).leftpad 4 '0')
  | plain {c : Char} (hname : ∀ name, (c, name) ∉ shortNames) (hplain : 32 ≤ c.toNat) : IsWritten c [c]

inductive Quotes (s : String) : String → Prop where
  | intro {pieces : List (List Char)} (hpieces : List.Forall₂ IsWritten s.toList pieces)
      : Quotes s ("\"" ++ String.ofList pieces.flatten ++ "\"")

theorem mem_shortNames_of_shortEscape?_eq_some {c : Char} {cs : List Char} (h : shortEscape? c = some cs)
    : ∃ name, (c, name) ∈ shortNames ∧ ['\\', name] = cs := by
  revert h
  fun_cases shortEscape? c <;> simp [shortNames, *]

theorem not_mem_shortNames_of_shortEscape?_eq_none {c : Char} (h : shortEscape? c = none) (name : Char)
    : (c, name) ∉ shortNames := by
  revert h
  fun_cases shortEscape? c <;> simp [shortNames, *]

theorem hexFour_eq_leftpad : ∀ n < 32, hexFour n = (Nat.toDigits 16 n).leftpad 4 '0' := by
  decide

theorem escapeChar_isWritten (c : Char) : IsWritten c (escapeChar c) := by
  unfold escapeChar
  cases hshort : shortEscape? c with
  | some cs =>
    obtain ⟨name, hname, rfl⟩ := mem_shortNames_of_shortEscape?_eq_some hshort
    exact .named hname
  | none =>
    have hname := not_mem_shortNames_of_shortEscape?_eq_none hshort
    dsimp only
    split
    . next hcontrol =>
      rw [hexFour_eq_leftpad c.toNat hcontrol]
      exact .numbered hname hcontrol
    . next hplain => exact .plain hname (Nat.le_of_not_lt hplain)

theorem quoted_quotes (s : String) : Quotes s (quoted s) := by
  have hpieces : List.Forall₂ IsWritten s.toList (s.toList.map escapeChar) := by
    rw [List.forall₂_map_right_iff]
    exact List.forall₂_same.2 fun c _ => escapeChar_isWritten c
  have hquoted : quoted s = "\"" ++ String.ofList (s.toList.map escapeChar).flatten ++ "\"" := by
    rw [← String.toList_inj]
    simp [quoted, List.flatMap_def]
  rw [hquoted]
  exact .intro hpieces

theorem textAt_append_itemsAt (level : Nat) (item : Json) (items : List Json)
    : textAt level item ++ itemsAt level items
        =
      (",\n" ++ Value.indentation level).intercalate ((item :: items).map (textAt level)) := by
  induction items generalizing item with
  | nil => simp [itemsAt]
  | cons next items ih =>
    rw [itemsAt]
    rw [String.append_assoc]
    rw [ih]
    rw [List.map_cons]
    rw [List.map_cons]
    rw [List.map_cons]
    rw [String.intercalate_cons_cons]
    simp only [String.append_assoc]

theorem textAt_array_cons (level : Nat) (item : Json) (items : List Json)
    : textAt level (.array (item :: items))
        =
      "[\n" ++ Value.indentation (level + 1)
        ++ (",\n" ++ Value.indentation (level + 1)).intercalate ((item :: items).map (textAt (level + 1)))
        ++ "\n" ++ Value.indentation level ++ "]" := by
  rw [textAt]
  rw [← textAt_append_itemsAt]
  simp only [String.append_assoc]

end BackendPolicy.Json
