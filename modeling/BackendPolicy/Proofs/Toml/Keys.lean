import BackendPolicy.Proofs.Data.Faults
import BackendPolicy.Toml.Document
import Mathlib.Data.List.Nodup

/-!
This module contains the keys of parsed documents. The main statement is `hasDistinctKeys_of_ofText`: at no depth
does a table have two fields of one key.
-/

namespace BackendPolicy.Toml

/--
Whether the keys of every table in a value are distinct.
-/
inductive HasDistinctKeys : Toml → Prop where
  | string (s : String) : HasDistinctKeys (.string s)
  | integer (i : Int) : HasDistinctKeys (.integer i)
  | float (f : Float) : HasDistinctKeys (.float f)
  | bool (b : Bool) : HasDistinctKeys (.bool b)
  | datetime (text : String) : HasDistinctKeys (.datetime text)
  | array {items : List Toml} (hitems : ∀ v ∈ items, HasDistinctKeys v) : HasDistinctKeys (.array items)
  | table {fields : List (String × Toml)} (hkeys : (fields.map Prod.fst).Nodup)
      (hvalues : ∀ key v, (key, v) ∈ fields → HasDistinctKeys v)
      : HasDistinctKeys (.table fields)

theorem hasDistinctKeys_array_iff {items : List Toml}
    : (array items).HasDistinctKeys ↔ ∀ v ∈ items, v.HasDistinctKeys := by
  constructor
  . intro h
    cases h with
    | array hitems => exact hitems
  . exact .array

theorem hasDistinctKeys_table_iff {fields : List (String × Toml)}
    : (table fields).HasDistinctKeys
        ↔
      (fields.map Prod.fst).Nodup ∧ ∀ key v, (key, v) ∈ fields → v.HasDistinctKeys := by
  constructor
  . intro h
    cases h with
    | table hkeys hvalues => exact ⟨hkeys, hvalues⟩
  . rintro ⟨hkeys, hvalues⟩
    exact .table hkeys hvalues

section

/-!
Scalars have no keys.
-/

variable {v : Toml}

theorem hasDistinctKeys_of_decodeInteger {base : Nat} {negative : Bool} {cs : List Char}
    (h : decodeInteger base negative cs = .ok v)
    : v.HasDistinctKeys := by
  unfold decodeInteger at h
  obtain ⟨digits, _, h⟩ := bind_eq_ok_iff.1 h
  split at h
  . cases h
    exact .integer _
  . contradiction

theorem hasDistinctKeys_of_decodeFloat {negative : Bool} {cs : List Char} (h : decodeFloat negative cs = .ok v)
    : v.HasDistinctKeys := by
  unfold decodeFloat at h
  obtain ⟨digits, _, h⟩ := bind_eq_ok_iff.1 h
  obtain ⟨_, h⟩ := guard_eq_ok_iff.1 h
  obtain ⟨_, h⟩ := guard_eq_ok_iff.1 h
  cases h
  exact .float _

theorem hasDistinctKeys_of_decodeDatetime {text : List Char} (h : decodeDatetime text = .ok v)
    : v.HasDistinctKeys := by
  unfold decodeDatetime at h
  obtain ⟨_, _, h⟩ := bind_eq_ok_iff.1 h
  cases h
  exact .datetime _

theorem hasDistinctKeys_of_decodeNumber {sign cs : List Char} (h : decodeNumber sign cs = .ok v)
    : v.HasDistinctKeys := by
  revert h
  fun_cases decodeNumber sign cs
  all_goals
    intro h
    first
    | contradiction
    | exact hasDistinctKeys_of_decodeInteger h
    | exact hasDistinctKeys_of_decodeFloat h
    | exact hasDistinctKeys_of_decodeDatetime h

theorem hasDistinctKeys_of_decodeWord {word : String} {fault : String → Fault} {meant : Toml} {cs : List Char}
    (hmeant : meant.HasDistinctKeys) (h : decodeWord word fault meant cs = .ok v)
    : v.HasDistinctKeys := by
  unfold decodeWord at h
  split at h
  . cases h
    exact hmeant
  . contradiction

theorem hasDistinctKeys_of_decodeUnsigned {sign cs : List Char} (h : decodeUnsigned sign cs = .ok v)
    : v.HasDistinctKeys := by
  unfold decodeUnsigned at h
  repeat' split at h
  all_goals
    first
    | contradiction
    | exact hasDistinctKeys_of_decodeNumber h
    | exact hasDistinctKeys_of_decodeWord (.float _) h
    | exact hasDistinctKeys_of_decodeWord (.bool _) h

theorem hasDistinctKeys_of_decodeScalar {raw : Raw} (h : decodeScalar raw = .ok v) : v.HasDistinctKeys := by
  unfold decodeScalar at h
  split at h
  . obtain ⟨_, _, h⟩ := bind_eq_ok_iff.1 h
    cases h
    exact .string _
  . exact hasDistinctKeys_of_decodeUnsigned h
  . exact hasDistinctKeys_of_decodeUnsigned h
  . exact hasDistinctKeys_of_decodeUnsigned h

end

section

theorem Node.finishAll_eq (items : List Node) : finishAll items = items.map finish := by
  induction items with
  | nil => rfl
  | cons _ _ ih =>
    rw [finishAll]
    rw [ih]
    rfl

theorem Node.finishFields_eq (fields : List (String × Node))
    : finishFields fields = fields.map fun f => (f.1, f.2.finish) := by
  induction fields with
  | nil => rfl
  | cons _ _ ih =>
    rw [finishFields]
    rw [ih]
    rfl

theorem Node.finishTables_eq (items : List (List (String × Node)))
    : finishTables items = items.map fun fields => .table (finishFields fields) := by
  induction items with
  | nil => rfl
  | cons _ _ ih =>
    rw [finishTables]
    rw [ih]
    rfl

structure AreDistinct (fields : List (String × Node)) : Prop where
  keys : (fields.map Prod.fst).Nodup
  values : ∀ key node, (key, node) ∈ fields → node.finish.HasDistinctKeys

theorem areDistinct_nil : AreDistinct [] where
  keys := .nil
  values _ _ hmem := by contradiction

variable {fields : List (String × Node)}

theorem hasDistinctKeys_finish_array_iff {items : List Node}
    : (Node.array items).finish.HasDistinctKeys ↔ ∀ node ∈ items, node.finish.HasDistinctKeys := by
  rw [Node.finish]
  rw [Node.finishAll_eq]
  rw [hasDistinctKeys_array_iff]
  rw [List.forall_mem_map]

theorem hasDistinctKeys_finish_table_iff (origin : Origin)
    : (Node.table origin fields).finish.HasDistinctKeys ↔ AreDistinct fields := by
  have hkeys : (fields.map fun f => (f.1, f.2.finish)).map Prod.fst = fields.map Prod.fst := by simp
  rw [Node.finish]
  rw [Node.finishFields_eq]
  rw [hasDistinctKeys_table_iff]
  rw [hkeys]
  constructor
  . rintro ⟨hdistinct, hvalues⟩
    refine ⟨hdistinct, ?_⟩
    intro key node hmem
    exact hvalues key _ (List.mem_map_of_mem hmem)
  . rintro ⟨hdistinct, hvalues⟩
    refine ⟨hdistinct, ?_⟩
    intro key v hmem
    obtain ⟨f, hf, heq⟩ := List.mem_map.1 hmem
    cases heq
    exact hvalues f.1 f.2 hf

theorem hasDistinctKeys_finish_tables_iff {items : List (List (String × Node))}
    : (Node.tables items).finish.HasDistinctKeys ↔ ∀ fields ∈ items, AreDistinct fields := by
  simp only [← hasDistinctKeys_finish_table_iff .header]
  rw [Node.finish]
  rw [Node.finishTables_eq]
  rw [hasDistinctKeys_array_iff]
  rw [List.forall_mem_map]
  rfl

theorem AreDistinct.of_lookup (h : AreDistinct fields) {key : String} {node : Node}
    (hlookup : fields.lookup key = some node)
    : node.finish.HasDistinctKeys := by
  obtain ⟨before, after, rfl, _⟩ := List.lookup_eq_some_iff.1 hlookup
  exact h.values key node (by simp)

theorem AreDistinct.append_singleton (h : AreDistinct fields) {key : String} {node : Node}
    (hkey : ∀ other, (key, other) ∉ fields) (hnode : node.finish.HasDistinctKeys)
    : AreDistinct (fields ++ [(key, node)]) where
  keys := by
    rw [List.map_append]
    rw [List.map_singleton]
    rw [← List.concat_eq_append]
    rw [List.nodup_concat]
    refine ⟨?_, h.keys⟩
    rw [List.mem_map]
    rintro ⟨⟨_, other⟩, hmem, rfl⟩
    exact hkey other hmem
  values := by
    intro k n hmem
    obtain hmem | hmem := List.mem_append.1 hmem
    . exact h.values k n hmem
    . cases List.mem_singleton.1 hmem
      exact hnode

theorem setField_eq_append {key : String} (node : Node) (h : ∀ other, (key, other) ∉ fields)
    : setField key node fields = fields ++ [(key, node)] := by
  induction fields with
  | nil => rfl
  | cons f rest ih =>
    have hne : f.1 ≠ key := by
      rintro rfl
      exact h f.2 (by simp)
    rw [setField]
    rw [if_neg hne]
    rw [ih fun other hmem => h other (List.mem_cons_of_mem _ hmem)]
    rfl

theorem map_fst_setField {key : String} {node other : Node} (h : (key, other) ∈ fields)
    : (setField key node fields).map Prod.fst = fields.map Prod.fst := by
  induction fields with
  | nil => contradiction
  | cons f rest ih =>
    rw [setField]
    split
    . rfl
    . next hne =>
      obtain rfl | h := List.mem_cons.1 h
      . exact absurd rfl hne
      . rw [List.map_cons]
        rw [ih h]
        rfl

theorem mem_setField {key k : String} {node n : Node} (h : (k, n) ∈ setField key node fields)
    : n = node ∨ (k, n) ∈ fields := by
  induction fields with
  | nil =>
    cases List.mem_singleton.1 h
    exact .inl rfl
  | cons f rest ih =>
    rw [setField] at h
    split at h
    . obtain h | h := List.mem_cons.1 h
      . exact .inl (congrArg Prod.snd h)
      . exact .inr (List.mem_cons_of_mem _ h)
    . obtain h | h := List.mem_cons.1 h
      . exact .inr (h ▸ List.mem_cons_self)
      . exact (ih h).imp_right (List.mem_cons_of_mem _)

theorem AreDistinct.setField (h : AreDistinct fields) (key : String) {node : Node}
    (hnode : node.finish.HasDistinctKeys)
    : AreDistinct (setField key node fields) := by
  by_cases hkey : ∃ other, (key, other) ∈ fields
  . obtain ⟨other, hkey⟩ := hkey
    constructor
    . rw [map_fst_setField hkey]
      exact h.keys
    . intro k n hmem
      obtain rfl | hmem := mem_setField hmem
      . exact hnode
      . exact h.values k n hmem
  . rw [not_exists] at hkey
    rw [setField_eq_append node hkey]
    exact h.append_singleton hkey hnode

end

/--
Whether a change of tables keeps their keys distinct.
-/
def KeepsDistinct (change : Table → Except Fault Table) : Prop :=
  ∀ t t', AreDistinct t.fields → change t = .ok t' → AreDistinct t'.fields

theorem keepsDistinct_modify {change : Table → Except Fault Table} (hchange : KeepsDistinct change) (dotted : Bool)
    (path : List String)
    : KeepsDistinct (modify dotted change path) := by
  induction path with
  | nil => exact hchange
  | cons key path ih =>
    intro t t' ht h
    unfold modify at h
    dsimp only at h
    split at h
    . obtain ⟨inner, hinner, h⟩ := bind_eq_ok_iff.1 h
      cases h
      apply ht.setField
      rw [hasDistinctKeys_finish_table_iff]
      exact ih _ _ areDistinct_nil hinner
    . next origin fields hlookup =>
      have hnode := ht.of_lookup hlookup
      rw [hasDistinctKeys_finish_table_iff] at hnode
      split at h
      . contradiction
      . split at h
        . contradiction
        . obtain ⟨inner, hinner, h⟩ := bind_eq_ok_iff.1 h
          cases h
          apply ht.setField
          rw [hasDistinctKeys_finish_table_iff]
          exact ih _ _ hnode hinner
    . next items hlookup =>
      have hnode := ht.of_lookup hlookup
      rw [hasDistinctKeys_finish_tables_iff] at hnode
      obtain ⟨last, hlast, h⟩ := bind_eq_ok_iff.1 h
      cases h
      apply ht.setField
      rw [hasDistinctKeys_finish_tables_iff]
      intro fields hmem
      obtain hmem | hmem := List.mem_append.1 hmem
      . exact hnode fields (List.dropLast_subset items hmem)
      . cases List.mem_singleton.1 hmem
        refine ih _ _ ?_ hlast
        cases hitems : items.getLast? with
        | none => exact areDistinct_nil
        | some fields => exact hnode fields (List.mem_of_getLast? hitems)
    . contradiction

theorem keepsDistinct_assign {node : Node} (hnode : node.finish.HasDistinctKeys) (path : List String)
    : KeepsDistinct (assign path node) := by
  intro t t' ht h
  unfold assign at h
  split at h
  . cases h
    exact ht
  . next key _ =>
    refine keepsDistinct_modify ?_ _ _ t t' ht h
    intro parent parent' hparent h
    dsimp only at h
    split at h
    . contradiction
    . split at h
      . contradiction
      . next hlookup =>
        cases h
        refine hparent.append_singleton ?_ hnode
        intro other hmem
        rw [List.lookup_eq_none_iff] at hlookup
        simpa using hlookup _ hmem

theorem keepsDistinct_openTable (isArray : Bool) (path : List String) : KeepsDistinct (openTable isArray path) := by
  intro t t' ht h
  unfold openTable at h
  split at h
  . cases h
    exact ht
  . next key _ =>
    refine keepsDistinct_modify ?_ _ _ t t' ht h
    clear h
    intro parent parent' hparent h
    dsimp only at h
    split at h
    . cases h
      apply hparent.setField
      exact (hasDistinctKeys_finish_table_iff _).2 areDistinct_nil
    . next hlookup =>
      cases h
      apply hparent.setField
      have hnode := hparent.of_lookup hlookup
      rw [hasDistinctKeys_finish_table_iff] at hnode ⊢
      exact hnode
    . cases h
      apply hparent.setField
      rw [hasDistinctKeys_finish_tables_iff]
      intro fields hmem
      cases List.mem_singleton.1 hmem
      exact areDistinct_nil
    . next items hlookup =>
      cases h
      apply hparent.setField
      have hnode := hparent.of_lookup hlookup
      rw [hasDistinctKeys_finish_tables_iff] at hnode ⊢
      intro fields hmem
      obtain hmem | hmem := List.mem_append.1 hmem
      . exact hnode fields hmem
      . cases List.mem_singleton.1 hmem
        exact areDistinct_nil
    . contradiction

mutual

theorem hasDistinctKeys_of_decodeValue {raw : RawValue} {node : Node} (h : decodeValue raw = .ok node)
    : node.finish.HasDistinctKeys := by
  cases raw with
  | scalar raw =>
    rw [decodeValue] at h
    obtain ⟨v, hv, h⟩ := bind_eq_ok_iff.1 h
    cases h
    exact hasDistinctKeys_of_decodeScalar hv
  | array items =>
    rw [decodeValue] at h
    obtain ⟨nodes, hnodes, h⟩ := bind_eq_ok_iff.1 h
    cases h
    rw [hasDistinctKeys_finish_array_iff]
    exact hasDistinctKeys_of_decodeItems hnodes
  | table fields =>
    rw [decodeValue] at h
    obtain ⟨t, ht, h⟩ := bind_eq_ok_iff.1 h
    cases h
    rw [hasDistinctKeys_finish_table_iff]
    exact areDistinct_of_decodeFields areDistinct_nil ht

theorem hasDistinctKeys_of_decodeItems {items : List RawValue} {nodes : List Node}
    (h : decodeItems items = .ok nodes)
    : ∀ node ∈ nodes, node.finish.HasDistinctKeys := by
  cases items with
  | nil =>
    cases h
    simp
  | cons item items =>
    rw [decodeItems] at h
    obtain ⟨node, hnode, h⟩ := bind_eq_ok_iff.1 h
    obtain ⟨nodes, hnodes, h⟩ := bind_eq_ok_iff.1 h
    cases h
    rw [List.forall_mem_cons]
    exact ⟨hasDistinctKeys_of_decodeValue hnode, hasDistinctKeys_of_decodeItems hnodes⟩

theorem areDistinct_of_decodeFields {fields : List (List Raw × RawValue)} {done t : Table}
    (hdone : AreDistinct done.fields) (h : decodeFields done fields = .ok t)
    : AreDistinct t.fields := by
  cases fields with
  | nil =>
    cases h
    exact hdone
  | cons f fields =>
    rw [decodeFields] at h
    obtain ⟨path, _, h⟩ := bind_eq_ok_iff.1 h
    obtain ⟨node, hnode, h⟩ := bind_eq_ok_iff.1 h
    obtain ⟨next, hnext, h⟩ := bind_eq_ok_iff.1 h
    have hdistinct := keepsDistinct_assign (hasDistinctKeys_of_decodeValue hnode) path done next hdone hnext
    exact areDistinct_of_decodeFields hdistinct h

end

theorem areDistinct_of_carryOut {statements : List Statement} {current : List String} {root t : Table}
    (hroot : AreDistinct root.fields) (h : carryOut current root statements = .ok t)
    : AreDistinct t.fields := by
  induction statements generalizing current root with
  | nil =>
    cases h
    exact hroot
  | cons s statements ih =>
    cases s with
    | header isArray path =>
      rw [carryOut] at h
      obtain ⟨path, _, h⟩ := bind_eq_ok_iff.1 h
      obtain ⟨next, hnext, h⟩ := bind_eq_ok_iff.1 h
      exact ih (keepsDistinct_openTable isArray path root next hroot hnext) h
    | assignment path raw =>
      rw [carryOut] at h
      obtain ⟨path, _, h⟩ := bind_eq_ok_iff.1 h
      obtain ⟨node, hnode, h⟩ := bind_eq_ok_iff.1 h
      obtain ⟨next, hnext, h⟩ := bind_eq_ok_iff.1 h
      have hassign := keepsDistinct_assign (hasDistinctKeys_of_decodeValue hnode) path
      exact ih (keepsDistinct_modify hassign false current root next hroot hnext) h

theorem hasDistinctKeys_of_ofText {text : List Char} {document : Toml} (h : ofText text = .ok document)
    : (∃ fields, document = .table fields) ∧ document.HasDistinctKeys := by
  unfold ofText at h
  obtain ⟨statements, _, h⟩ := bind_eq_ok_iff.1 h
  obtain ⟨root, hroot, h⟩ := bind_eq_ok_iff.1 h
  cases h
  refine ⟨⟨_, rfl⟩, ?_⟩
  rw [hasDistinctKeys_finish_table_iff]
  exact areDistinct_of_carryOut areDistinct_nil hroot

end BackendPolicy.Toml
