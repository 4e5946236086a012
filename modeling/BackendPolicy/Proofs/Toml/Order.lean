import BackendPolicy.Config.Decode
import BackendPolicy.Proofs.Data.Dict
import BackendPolicy.Proofs.Toml.Keys

/-!
This module contains values that differ only in the order of their keys. The main statement is
`Reordered.sortKeys_eq`: as long as no table has two fields of one key, such values are the same once their keys are
sorted.
-/

namespace BackendPolicy.Toml

/--
Whether values differ only in the order of keys, in tables at any depth.
-/
inductive Reordered : Toml → Toml → Prop where
  | refl (v : Toml) : Reordered v v
  | trans {a b c : Toml} (hab : Reordered a b) (hbc : Reordered b c) : Reordered a c
  | table {fields fields' : List (String × Toml)} (h : fields.Perm fields')
      : Reordered (.table fields) (.table fields')
  | field {before after : List (String × Toml)} {key : String} {v v' : Toml} (h : Reordered v v')
      : Reordered (.table (before ++ (key, v) :: after)) (.table (before ++ (key, v') :: after))
  | item {before after : List Toml} {v v' : Toml} (h : Reordered v v')
      : Reordered (.array (before ++ v :: after)) (.array (before ++ v' :: after))

theorem Reordered.isTable {v v' : Toml} (h : Reordered v v') (htable : ∃ fields, v = .table fields)
    : ∃ fields, v' = .table fields := by
  induction h with
  | refl => exact htable
  | trans _ _ ihab ihbc => exact ihbc (ihab htable)
  | table => exact ⟨_, rfl⟩
  | field => exact ⟨_, rfl⟩
  | item =>
    obtain ⟨_, hv⟩ := htable
    contradiction

theorem HasDistinctKeys.reordered {v v' : Toml} (h : v.HasDistinctKeys) (hreordered : Reordered v v')
    : v'.HasDistinctKeys := by
  induction hreordered with
  | refl => exact h
  | trans _ _ ihab ihbc => exact ihbc (ihab h)
  | table hperm =>
    cases h with
    | table hkeys hvalues =>
      refine .table ((hperm.map Prod.fst).nodup_iff.1 hkeys) ?_
      intro key v hmem
      exact hvalues key v (hperm.mem_iff.2 hmem)
  | @field before after key v v' _ ih =>
    cases h with
    | table hkeys hvalues =>
      refine .table ?_ ?_
      . simpa using hkeys
      . intro k w hmem
        simp only [List.mem_append, List.mem_cons] at hmem
        obtain hmem | hmem | hmem := hmem
        . exact hvalues k w (by simp [hmem])
        . cases hmem
          exact ih (hvalues key v (by simp))
        . exact hvalues k w (by simp [hmem])
  | @item before after v v' _ ih =>
    cases h with
    | array hitems =>
      refine .array ?_
      intro w hmem
      simp only [List.mem_append, List.mem_cons] at hmem
      obtain hmem | rfl | hmem := hmem
      . exact hitems w (by simp [hmem])
      . exact ih (hitems v (by simp))
      . exact hitems w (by simp [hmem])

mutual

def sortKeys : Toml → Toml
  | array items => array (sortItems items)
  | table fields => table (sorted (sortValues fields))
  | v => v

def sortItems : List Toml → List Toml
  | [] => []
  | v :: items => v.sortKeys :: sortItems items

def sortValues : List (String × Toml) → List (String × Toml)
  | [] => []
  | (key, v) :: fields => (key, v.sortKeys) :: sortValues fields

end

theorem sortItems_eq (items : List Toml) : sortItems items = items.map sortKeys := by
  induction items with
  | nil => rfl
  | cons _ _ ih =>
    rw [sortItems]
    rw [ih]
    rfl

theorem sortValues_eq (fields : List (String × Toml))
    : sortValues fields = fields.map fun f => (f.1, f.2.sortKeys) := by
  induction fields with
  | nil => rfl
  | cons _ _ ih =>
    rw [sortValues]
    rw [ih]
    rfl

theorem sortKeys_array (items : List Toml) : (array items).sortKeys = array (items.map sortKeys) := by
  rw [sortKeys]
  rw [sortItems_eq]

theorem sortKeys_table (fields : List (String × Toml))
    : (table fields).sortKeys = table (sorted (fields.map fun f => (f.1, f.2.sortKeys))) := by
  rw [sortKeys]
  rw [sortValues_eq]

theorem sorted_map (f : Toml → Toml) (fields : List (String × Toml))
    : sorted (fields.map fun e => (e.1, f e.2)) = (sorted fields).map fun e => (e.1, f e.2) := by
  unfold sorted
  rw [← Dict.map_ofList]
  rfl

theorem sorted_sorted (fields : List (String × Toml)) : sorted (sorted fields) = sorted fields := by
  unfold sorted
  rw [Dict.ofList_entries]

theorem lookup_sorted (fields : List (String × Toml)) (key : String)
    : (sorted fields).lookup key = lastValue? key fields :=
  Dict.get?_ofList fields key

theorem lastValue?_sorted (fields : List (String × Toml)) (key : String)
    : lastValue? key (sorted fields) = lastValue? key fields :=
  (Dict.lastValue?_entries (Dict.ofList fields) key).trans (Dict.get?_ofList fields key)

theorem sorted_eq_nil_iff {fields : List (String × Toml)} : sorted fields = [] ↔ fields = [] := by
  constructor
  . intro h
    rw [List.eq_nil_iff_forall_not_mem]
    intro f
    have hnone : lastValue? f.1 fields = none := by
      rw [← lookup_sorted]
      rw [h]
      rfl
    exact lastValue?_eq_none_iff.1 hnone f.2
  . rintro rfl
    rfl

theorem mem_sorted_iff {fields : List (String × Toml)} (h : (fields.map Prod.fst).Nodup) {key : String} {v : Toml}
    : (key, v) ∈ sorted fields ↔ (key, v) ∈ fields := by
  unfold sorted
  rw [Dict.mem_entries_iff]
  rw [Dict.get?_ofList]
  rw [lastValue?_eq_some_iff_mem h]

theorem sorted_perm_self {fields : List (String × Toml)} (h : (fields.map Prod.fst).Nodup)
    : (sorted fields).Perm fields := by
  have hsorted : (sorted fields).Nodup := by
    refine (Dict.ofList fields).sorted.imp ?_
    rintro a b hlt rfl
    exact String.lt_irrefl a.1 hlt
  rw [List.perm_ext_iff_of_nodup hsorted h.of_map]
  intro entry
  exact mem_sorted_iff h

theorem sorted_perm {fields fields' : List (String × Toml)} (hkeys : (fields.map Prod.fst).Nodup)
    (h : fields.Perm fields')
    : sorted fields = sorted fields' := by
  have hkeys' : (fields'.map Prod.fst).Nodup := (h.map Prod.fst).nodup_iff.1 hkeys
  apply congrArg Dict.entries
  apply Dict.ext_mem
  intro key v
  exact (mem_sorted_iff hkeys).trans (h.mem_iff.trans (mem_sorted_iff hkeys').symm)

theorem Reordered.sortKeys_eq {v v' : Toml} (h : Reordered v v') (hkeys : v.HasDistinctKeys)
    : v'.sortKeys = v.sortKeys := by
  induction h with
  | refl => rfl
  | trans hab _ ihab ihbc => exact (ihbc (hkeys.reordered hab)).trans (ihab hkeys)
  | table hperm =>
    cases hkeys with
    | table hkeys =>
      rw [sortKeys_table]
      rw [sortKeys_table]
      rw [sorted_map]
      rw [sorted_map]
      rw [sorted_perm hkeys hperm]
  | @field before after key v v' _ ih =>
    cases hkeys with
    | table _ hvalues =>
      rw [sortKeys_table]
      rw [sortKeys_table]
      rw [List.map_append]
      rw [List.map_append]
      rw [List.map_cons]
      rw [List.map_cons]
      rw [ih (hvalues key v (by simp))]
  | item _ ih =>
    cases hkeys with
    | array hitems =>
      rw [sortKeys_array]
      rw [sortKeys_array]
      rw [List.map_append]
      rw [List.map_append]
      rw [List.map_cons]
      rw [List.map_cons]
      rw [ih (hitems _ (by simp))]

theorem fields?_sortKeys (v : Toml)
    : v.sortKeys.fields? = v.fields?.map fun fields => fields.map fun f => (f.1, f.2.sortKeys) := by
  cases v with
  | table fields =>
    rw [sortKeys_table]
    rw [fields?]
    rw [sorted_sorted]
    rw [sorted_map]
    rfl
  | _ => rfl

theorem sortKeys_eq_bool_iff {v : Toml} {b : Bool} : v.sortKeys = .bool b ↔ v = .bool b := by
  cases v <;> simp [sortKeys]

theorem sortKeys_eq_table_nil_iff {v : Toml} : v.sortKeys = .table [] ↔ v = .table [] := by
  cases v with
  | table fields =>
    rw [sortKeys_table]
    simp [sorted_eq_nil_iff]
  | _ => simp [sortKeys]

end BackendPolicy.Toml
