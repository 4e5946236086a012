import BackendPolicy.Proofs.Config.Acceptance

/-!
This module contains what does not matter in a configuration: unknown keys, and the order of keys. The main
statement is `ofToml_exact`: it says exactly what is accepted, and that the rest of a table has no influence.
-/

namespace BackendPolicy

namespace Toml

def onlyFields (keys : List String) : Toml → Toml
  | table fields => table (fields.filter fun f => f.1 ∈ keys)
  | v => v

def mapValues (f : Toml → Toml) : Toml → Toml
  | table fields => table (fields.map fun e => (e.1, f e.2))
  | v => v

end Toml

namespace Config

variable {α : Type}

def knownKeys : List String := ["_version", "format", "rules", "variables"]

def leaveOutInside (key : String) (v : Toml) : Toml :=
  if key = "rules" then v.mapValues (Toml.onlyFields ["enabled"]) else v

/--
Leave out what no configuration knows.
-/
def leaveOutUnknown (fields : List (String × Toml)) : List (String × Toml) :=
  (fields.filter fun f => f.1 ∈ knownKeys).map fun f => (f.1, leaveOutInside f.1 f.2)

theorem decodeRule_onlyFields (v : Toml) : decodeRule (v.onlyFields ["enabled"]) = decodeRule v := by
  cases v with
  | table fields =>
    unfold decodeRule
    dsimp only [Toml.onlyFields, Toml.fields?]
    rw [Toml.lookup_sorted]
    rw [Toml.lookup_sorted]
    rw [lastValue?_filter (p := fun key => key ∈ ["enabled"]) (by simp)]
  | _ => rfl

theorem decodeFields_mapValues {decode : Toml → Except DecodeError α} {f : Toml → Toml}
    (h : ∀ v, decode (f v) = decode v) (v : Toml)
    : decodeFields decode (v.mapValues f) = decodeFields decode v := by
  cases v with
  | table fields =>
    unfold decodeFields
    dsimp only [Toml.mapValues, Toml.fields?]
    rw [Toml.sorted_map]
    rw [List.mapM_map]
    simp only [Function.comp_def, h]
  | _ => rfl

section

variable (fields : List (String × Toml))

theorem lookup_leaveOutUnknown {key : String} (h : key ∈ knownKeys)
    : (Toml.sorted (leaveOutUnknown fields)).lookup key
        =
      ((Toml.sorted fields).lookup key).map (leaveOutInside key) := by
  rw [Toml.lookup_sorted]
  rw [Toml.lookup_sorted]
  unfold leaveOutUnknown
  rw [lastValue?_map_key]
  rw [lastValue?_filter (p := fun key => key ∈ knownKeys) (by simpa using h)]

theorem lookup_leaveOutUnknown_of_ne {key : String} (h : key ∈ knownKeys) (hne : key ≠ "rules")
    : (Toml.sorted (leaveOutUnknown fields)).lookup key = (Toml.sorted fields).lookup key := by
  have hinside : leaveOutInside key = id := by
    funext v
    exact if_neg hne
  rw [lookup_leaveOutUnknown fields h]
  rw [hinside]
  rw [Option.map_id]
  rfl

theorem decodeRules_leaveOutUnknown
    : decodePart (Toml.sorted (leaveOutUnknown fields)) "rules" .empty (decodeFields decodeRule)
        =
      decodePart (Toml.sorted fields) "rules" .empty (decodeFields decodeRule) := by
  unfold decodePart
  rw [lookup_leaveOutUnknown fields (by simp [knownKeys])]
  cases (Toml.sorted fields).lookup "rules" with
  | none => rfl
  | some v => exact decodeFields_mapValues decodeRule_onlyFields v

theorem ofToml_leaveOutUnknown : ofToml (.table (leaveOutUnknown fields)) = ofToml (.table fields) := by
  have hversion : decodeVersion (Toml.sorted (leaveOutUnknown fields)) = decodeVersion (Toml.sorted fields) := by
    unfold decodeVersion
    rw [lookup_leaveOutUnknown_of_ne fields (by simp [knownKeys]) (by simp)]
  have hpart {α : Type} (key : String) (h : key ∈ knownKeys) (hne : key ≠ "rules") (absent : α)
      (decode : Toml → Except DecodeError α)
      : decodePart (Toml.sorted (leaveOutUnknown fields)) key absent decode
          = decodePart (Toml.sorted fields) key absent decode := by
    unfold decodePart
    rw [lookup_leaveOutUnknown_of_ne fields h hne]
  change ofFields (Toml.sorted (leaveOutUnknown fields)) = ofFields (Toml.sorted fields)
  unfold ofFields
  rw [hversion]
  rw [hpart "format" (by simp [knownKeys]) (by simp)]
  rw [decodeRules_leaveOutUnknown]
  rw [hpart "variables" (by simp [knownKeys]) (by simp)]

end

def IgnoresOrder (decode : Toml → Except DecodeError α) : Prop :=
  ∀ v a, decode v.sortKeys = .ok a ↔ decode v = .ok a

theorem ignoresOrder_decodeString : IgnoresOrder decodeString := by
  intro v text
  cases v <;> simp [Toml.sortKeys, decodeString]

theorem ignoresOrder_decodeRule : IgnoresOrder decodeRule := by
  intro v enabled
  cases v with
  | array items =>
    rw [Toml.sortKeys_array]
    rw [decodeRule_array_eq_ok_iff]
    rw [decodeRule_array_eq_ok_iff]
    rw [List.map_eq_singleton_iff]
    simp only [Toml.sortKeys_eq_bool_iff, exists_eq_right]
  | table fields =>
    rw [Toml.sortKeys_table]
    rw [decodeRule_table_eq_ok_iff]
    rw [decodeRule_table_eq_ok_iff]
    rw [Toml.lastValue?_sorted]
    rw [lastValue?_map]
    rw [Option.map_eq_some_iff]
    simp only [Toml.sortKeys_eq_bool_iff, exists_eq_right]
  | _ => rfl

theorem ignoresOrder_decodeFormat : IgnoresOrder decodeFormat := by
  intro v format
  cases v with
  | array items => simp [Toml.sortKeys_array, decodeFormat, Toml.fields?]
  | table fields =>
    rw [Toml.sortKeys_table]
    rw [decodeFormat_table_eq_ok_iff]
    rw [decodeFormat_table_eq_ok_iff]
    rw [Toml.sorted_sorted]
    rw [Toml.sorted_map]
    rw [List.map_eq_singleton_iff]
    constructor
    . rintro ⟨f, hf, heq⟩
      obtain ⟨hname, hinner⟩ := Prod.mk.inj heq
      rw [hf]
      rw [← hname]
      rw [← Toml.sortKeys_eq_table_nil_iff.1 hinner]
    . intro h
      exact ⟨_, h, rfl⟩
  | _ => rfl

theorem ignoresOrder_decodeFields {decode : Toml → Except DecodeError α} (h : IgnoresOrder decode)
    : IgnoresOrder (decodeFields decode) := by
  intro v d
  unfold decodeFields
  rw [Toml.fields?_sortKeys]
  cases v.fields? with
  | none => simp
  | some fields =>
    simp only [Option.map_some, bind_eq_ok_iff, decodeEach_eq_ok_iff, List.forall₂_map_left_iff, h _ _]

theorem ignoresOrder_decodePart {decode : Toml → Except DecodeError α} (h : IgnoresOrder decode)
    (fields : List (String × Toml)) (key : String) (absent a : α)
    : decodePart (Toml.sorted (fields.map fun f => (f.1, f.2.sortKeys))) key absent decode = .ok a
        ↔
      decodePart (Toml.sorted fields) key absent decode = .ok a := by
  unfold decodePart
  rw [Toml.lookup_sorted]
  rw [Toml.lookup_sorted]
  rw [lastValue?_map]
  cases lastValue? key fields with
  | none => rfl
  | some v => exact h v a

theorem decodeVersion_map_sortKeys (fields : List (String × Toml))
    : decodeVersion (Toml.sorted (fields.map fun f => (f.1, f.2.sortKeys))) = .ok ()
        ↔
      decodeVersion (Toml.sorted fields) = .ok () := by
  unfold decodeVersion
  rw [Toml.lookup_sorted]
  rw [Toml.lookup_sorted]
  rw [lastValue?_map]
  cases lastValue? "_version" fields with
  | none => rfl
  | some v => cases v <;> simp [Toml.sortKeys]

theorem ofToml_sortKeys (fields : List (String × Toml)) (c : Config)
    : ofToml (Toml.table fields).sortKeys = .ok c ↔ ofToml (.table fields) = .ok c := by
  rw [Toml.sortKeys_table]
  rw [ofToml_eq_ok_iff_decoded]
  rw [ofToml_eq_ok_iff_decoded]
  rw [Toml.sorted_sorted]
  rw [decodeVersion_map_sortKeys]
  rw [ignoresOrder_decodePart ignoresOrder_decodeFormat]
  rw [ignoresOrder_decodePart (ignoresOrder_decodeFields ignoresOrder_decodeRule)]
  rw [ignoresOrder_decodePart (ignoresOrder_decodeFields ignoresOrder_decodeString)]

theorem ofToml_reordered {fields : List (String × Toml)} (hkeys : (Toml.table fields).HasDistinctKeys) {v : Toml}
    (h : Toml.Reordered (.table fields) v) (c : Config)
    : ofToml v = .ok c ↔ ofToml (.table fields) = .ok c := by
  obtain ⟨fields', rfl⟩ := h.isTable ⟨fields, rfl⟩
  rw [← ofToml_sortKeys fields]
  rw [← h.sortKeys_eq hkeys]
  rw [ofToml_sortKeys fields']

/--
A table whose keys are distinct, as those of every parsed document are, becomes a configuration exactly if it is
acceptable. Then it becomes the one that it describes. What is unknown has no influence, not even on the error, and
neither has the order of keys. A date is read as a table of its own kind, so `variables` must not be one.
-/
theorem ofToml_exact {fields : List (String × Toml)} (hkeys : (Toml.table fields).HasDistinctKeys)
    (hdate : ∀ text, ("variables", .datetime text) ∉ fields)
    : ((∃ c, ofToml (.table fields) = .ok c) ↔ IsAcceptable fields)
        ∧ (∀ c, ofToml (.table fields) = .ok c ↔ IsAcceptable fields ∧ Describes fields c)
        ∧ ofToml (.table (leaveOutUnknown fields)) = ofToml (.table fields)
        ∧ ∀ v, Toml.Reordered (.table fields) v → ∀ c, ofToml v = .ok c ↔ ofToml (.table fields) = .ok c := by
  refine ⟨exists_ofToml_eq_ok_iff hkeys hdate, ?_, ofToml_leaveOutUnknown fields, ?_⟩
  . intro c
    exact ofToml_eq_ok_iff hkeys hdate
  . intro v hreordered c
    exact ofToml_reordered hkeys hreordered c

def mixedFields : List (String × Toml) := [
  ("title", .string "x"),
  ("format", .table [("json", .table [])]),
  ("_version", .string "1"),
  ("rules", .table [
    ("style", .array [.bool true]),
    ("types", .table [("why", .string "no"), ("enabled", .bool false)])]),
  ("variables", .table [("region", .string "eu")])]

theorem ofToml_exact_mixed
    : (Toml.table mixedFields).HasDistinctKeys
        ∧ IsAcceptable mixedFields
        ∧ ∃ c,
            ofToml (.table mixedFields) = .ok c
              ∧ Describes mixedFields c
              ∧ c.rules.entries = [("style", true), ("types", false)]
              ∧ c.vars.entries = [("region", "eu")]
              ∧ c.format = .json := by
  have hkeys : (Toml.table mixedFields).HasDistinctKeys := by
    simp [mixedFields, Toml.hasDistinctKeys_table_iff, Toml.hasDistinctKeys_array_iff, Toml.HasDistinctKeys.string,
      Toml.HasDistinctKeys.bool, or_imp, forall_and]
  have hdate (text : String) : ("variables", .datetime text) ∉ mixedFields := by simp [mixedFields]
  have hdecoded : ((ofToml (.table mixedFields)).toOption.any fun c =>
      c.rules.entries = [("style", true), ("types", false)] ∧ c.vars.entries = [("region", "eu")]
        ∧ c.format = .json) = true := by
    decide +kernel
  obtain ⟨c, hc, hparts⟩ := (Option.any_eq_true _ _).1 hdecoded
  rw [toOption_eq_some_iff] at hc
  obtain ⟨hacceptable, hdescribes⟩ := ((ofToml_exact hkeys hdate).2.1 c).1 hc
  exact ⟨hkeys, hacceptable, c, hc, hdescribes, of_decide_eq_true hparts⟩

end Config

end BackendPolicy
