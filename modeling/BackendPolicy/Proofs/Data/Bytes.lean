import Mathlib.Data.String.Basic
import Mathlib.Tactic.SplitIfs

/-!
This module contains the order of texts in terms of their bytes: comparing texts code by code is comparing
their UTF-8 bytes one by one.
-/

namespace BackendPolicy

def utf8Bytes (s : String) : List UInt8 :=
  s.toUTF8.data.toList

theorem utf8Bytes_eq_flatMap (s : String) : utf8Bytes s = s.toList.flatMap String.utf8EncodeChar := by
  have hencode : s.toUTF8 = s.toList.utf8Encode := by simp
  unfold utf8Bytes
  rw [hencode]
  unfold List.utf8Encode
  rw [List.toList_data_toByteArray]

theorem div_lt_or_mod_lt {v w : Nat} (h : v < w) (base : Nat)
    : v / base < w / base ∨ v / base = w / base ∧ v % base < w % base := by
  obtain hlt | heq := Nat.lt_or_eq_of_le (Nat.div_le_div_right (c := base) (Nat.le_of_lt h))
  . exact .inl hlt
  . refine .inr ⟨heq, ?_⟩
    rw [← Nat.div_add_mod v base] at h
    rw [← Nat.div_add_mod w base] at h
    rw [heq] at h
    omega

theorem digits_lt {v w : Nat} (h : v < w)
    : v / 262144 < w / 262144
        ∨ v / 262144 = w / 262144
          ∧ (v / 4096 % 64 < w / 4096 % 64
            ∨ v / 4096 % 64 = w / 4096 % 64
              ∧ (v / 64 % 64 < w / 64 % 64 ∨ v / 64 % 64 = w / 64 % 64 ∧ v % 64 < w % 64)) := by
  have hsplit (n : Nat) : n / 4096 = n / 64 / 64 ∧ n / 262144 = n / 64 / 64 / 64 := by
    omega
  rw [(hsplit v).1]
  rw [(hsplit v).2]
  rw [(hsplit w).1]
  rw [(hsplit w).2]
  obtain h | ⟨heq, h⟩ := div_lt_or_mod_lt h 64
  . obtain h | ⟨heq, h⟩ := div_lt_or_mod_lt h 64
    . obtain h | ⟨heq, h⟩ := div_lt_or_mod_lt h 64
      . exact .inl h
      . exact .inr ⟨heq, .inl h⟩
    . simp [heq, h]
  . simp [heq, h]

theorem utf8EncodeChar_append_lt {c d : Char} (h : c < d) (cs ds : List UInt8)
    : String.utf8EncodeChar c ++ cs < String.utf8EncodeChar d ++ ds := by
  have hlt : c.val.toNat < d.val.toNat := h
  have hd : d.val.toNat < 1114112 := by
    have := d.valid
    unfold UInt32.isValidChar Nat.isValidChar at this
    omega
  unfold String.utf8EncodeChar
  generalize c.val.toNat = v at hlt
  generalize d.val.toNat = w at hlt hd
  dsimp only
  -- The first byte is larger if more bytes follow, so the digits only count if the lengths are equal.
  by_cases hlong : 65535 < v
  . have hfirst (n : Nat) (hn : n < 1114112) : (n / 262144 % 8 + 240) % 2 ^ 8 = n / 262144 + 240 := by omega
    have hv := hfirst v (by omega)
    have hw := hfirst w hd
    have hnext (n : Nat) : (n % 64 + 128) % 2 ^ 8 = n % 64 + 128 := by omega
    iterate 6 rw [if_neg (by omega)]
    simp only [List.cons_append, List.cons_lt_cons_iff, UInt8.lt_iff_toNat_lt, ← UInt8.toNat_inj,
      UInt8.toNat_ofNat', hnext, hv, hw, Nat.add_lt_add_iff_right, Nat.add_right_cancel_iff]
    obtain h | ⟨h3, h | ⟨h2, h | ⟨h1, h⟩⟩⟩ := digits_lt hlt
    . exact .inl h
    . exact .inr ⟨h3, .inl h⟩
    . exact .inr ⟨h3, .inr ⟨h2, .inl h⟩⟩
    . exact .inr ⟨h3, .inr ⟨h2, .inr ⟨h1, .inl h⟩⟩⟩
  . split_ifs <;>
      simp only [List.cons_append, List.nil_append, List.cons_lt_cons_iff, UInt8.lt_iff_toNat_lt,
        ← UInt8.toNat_inj, UInt8.toNat_ofNat'] <;>
      omega

theorem utf8Bytes_lt {s t : String} (h : s < t) : utf8Bytes s < utf8Bytes t := by
  rw [utf8Bytes_eq_flatMap]
  rw [utf8Bytes_eq_flatMap]
  rw [String.lt_iff_toList_lt] at h
  generalize s.toList = cs at h
  generalize t.toList = ds at h
  induction cs generalizing ds with
  | nil =>
    cases ds with
    | nil => exact absurd h (List.lt_irrefl _)
    | cons d ds =>
      rw [List.flatMap_cons]
      obtain ⟨byte, bytes, hbytes⟩ := List.exists_cons_of_ne_nil (String.utf8EncodeChar_ne_nil (c := d))
      rw [hbytes]
      apply List.nil_lt_cons
  | cons c cs ih =>
    cases ds with
    | nil => exact absurd h (List.not_lt_nil _)
    | cons d ds =>
      rw [List.flatMap_cons]
      rw [List.flatMap_cons]
      obtain hcd | ⟨rfl, hcs⟩ := List.cons_lt_cons_iff.1 h
      . exact utf8EncodeChar_append_lt hcd _ _
      . exact List.append_left_lt (ih ds hcs)

theorem utf8Bytes_lt_iff {s t : String} : utf8Bytes s < utf8Bytes t ↔ s < t := by
  constructor
  . intro h
    obtain hlt | heq | hgt := lt_trichotomy s t
    . exact hlt
    . subst heq
      exact absurd h (List.lt_irrefl _)
    . exact absurd h (List.lt_asymm (utf8Bytes_lt hgt))
  . exact utf8Bytes_lt

theorem utf8Bytes_le_iff {s t : String} : utf8Bytes s ≤ utf8Bytes t ↔ s ≤ t := by
  rw [← List.not_lt]
  rw [utf8Bytes_lt_iff]
  rw [not_lt]

end BackendPolicy
