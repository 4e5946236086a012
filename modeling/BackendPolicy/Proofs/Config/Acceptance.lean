import BackendPolicy.Proofs.Data.Faults
import BackendPolicy.Proofs.Toml.Order

/-!
This module contains the tables that are accepted as configurations. The main statement is `ofToml_eq_ok_iff`: it
says which tables these are, and what is in the configuration that such a table describes.
-/

namespace BackendPolicy.Config

variable {α : Type}

inductive IsRule : Toml → Bool → Prop where
  | table {fields : List (String × Toml)} {enabled : Bool} (h : ("enabled", .bool enabled) ∈ fields)
      : IsRule (.table fields) enabled
  | array (enabled : Bool) : IsRule (.array [.bool enabled]) enabled

inductive IsText : Toml → String → Prop where
  | string (text : String) : IsText (.string text) text

inductive IsFormat : Toml → Format → Prop where
  | name (format : Format) : IsFormat (.string format.display) format
  | table (format : Format) : IsFormat (.table [(format.display, .table [])]) format

/--
Whether the value of a key, if there is any, is a table of the given values.
-/
def AcceptsEntries (fields : List (String × Toml)) (key : String) (IsValue : Toml → α → Prop) : Prop :=
  ∀ v, (key, v) ∈ fields →
    ∃ entries, v = .table entries ∧ ∀ name value, (name, value) ∈ entries → ∃ a, IsValue value a

/--
Whether a dictionary has exactly the entries of the table that is the value of a key. It is empty if there is none.
-/
def HasEntries (fields : List (String × Toml)) (key : String) (IsValue : Toml → α → Prop) (d : Dict α) : Prop :=
  ∀ name a,
    (name, a) ∈ d.entries
      ↔
    ∃ entries value, (key, .table entries) ∈ fields ∧ (name, value) ∈ entries ∧ IsValue value a

structure IsAcceptable (fields : List (String × Toml)) : Prop where
  version : ("_version", .string "1") ∈ fields
  rules : AcceptsEntries fields "rules" IsRule
  vars : AcceptsEntries fields "variables" IsText
  format : ∀ v, ("format", v) ∈ fields → ∃ format, IsFormat v format

structure Describes (fields : List (String × Toml)) (c : Config) : Prop where
  rules : HasEntries fields "rules" IsRule c.rules
  vars : HasEntries fields "variables" IsText c.vars
  format : (∃ v, ("format", v) ∈ fields ∧ IsFormat v c.format) ∨ (∀ v, ("format", v) ∉ fields) ∧ c.format = .table

theorem HasEntries.unique {fields : List (String × Toml)} {key : String} {IsValue : Toml → α → Prop} {d e : Dict α}
    (hd : HasEntries fields key IsValue d) (he : HasEntries fields key IsValue e)
    : d = e := by
  apply Dict.ext_mem
  intro name a
  exact (hd name a).trans (he name a).symm

theorem hasEntries_empty {fields : List (String × Toml)} {key : String} {IsValue : Toml → α → Prop}
    (h : ∀ v, (key, v) ∉ fields)
    : HasEntries fields key IsValue .empty := by
  intro name a
  simp [h, Dict.empty]

theorem decodeBool_eq_ok_iff {v : Toml} {b : Bool} : decodeBool v = .ok b ↔ v = .bool b := by
  cases v <;> simp [decodeBool]

theorem decodeString_eq_ok_iff {v : Toml} {text : String} : decodeString v = .ok text ↔ IsText v text := by
  constructor
  . intro h
    cases v <;> cases h
    exact .string _
  . intro h
    cases h
    rfl

theorem decodeRule_array_eq_ok_iff {items : List Toml} {enabled : Bool}
    : decodeRule (.array items) = .ok enabled ↔ items = [.bool enabled] := by
  constructor
  . intro h
    unfold decodeRule at h
    dsimp only at h
    split at h
    . contradiction
    . next item rest =>
      obtain ⟨b, hitem, h⟩ := bind_eq_ok_iff.1 h
      rw [decodeBool_eq_ok_iff] at hitem
      split at h
      . next hrest =>
        cases h
        rw [hitem]
        rw [List.isEmpty_iff.1 hrest]
      . contradiction
  . rintro rfl
    rfl

theorem decodeRule_table_eq_ok_iff {fields : List (String × Toml)} {enabled : Bool}
    : decodeRule (.table fields) = .ok enabled ↔ lastValue? "enabled" fields = some (.bool enabled) := by
  unfold decodeRule
  dsimp only [Toml.fields?]
  rw [Toml.lookup_sorted]
  cases lastValue? "enabled" fields with
  | none => simp
  | some v => simp [decodeBool_eq_ok_iff]

theorem decodeRule_eq_ok_iff {v : Toml} (hkeys : v.HasDistinctKeys) {enabled : Bool}
    : decodeRule v = .ok enabled ↔ IsRule v enabled := by
  cases v with
  | array items =>
    rw [decodeRule_array_eq_ok_iff]
    constructor
    . rintro rfl
      exact .array enabled
    . intro h
      cases h
      rfl
  | table fields =>
    cases hkeys with
    | table hkeys =>
      rw [decodeRule_table_eq_ok_iff]
      rw [lastValue?_eq_some_iff_mem hkeys]
      constructor
      . exact .table
      . rintro (hmem | _)
        exact hmem
  | _ =>
    constructor
    . intro h
      contradiction
    . intro h
      cases h

theorem format_ofName?_eq_some_iff {name : String} {format : Format}
    : Format.ofName? name = some format ↔ name = format.display := by
  unfold Format.ofName?
  constructor
  . intro h
    have hdisplay := List.find?_some h
    exact (of_decide_eq_true hdisplay).symm
  . rintro rfl
    cases format <;> rfl

theorem decodeFormatName_eq_ok_iff {name : String} {format : Format}
    : decodeFormatName name = .ok format ↔ name = format.display := by
  rw [← format_ofName?_eq_some_iff]
  unfold decodeFormatName
  cases Format.ofName? name <;> simp

theorem decodeFormat_table_eq_ok_iff {fields : List (String × Toml)} {format : Format}
    : decodeFormat (.table fields) = .ok format ↔ Toml.sorted fields = [(format.display, .table [])] := by
  unfold decodeFormat
  dsimp only [Toml.fields?]
  constructor
  . intro h
    split at h
    . contradiction
    . next name inner hfields =>
      obtain ⟨chosen, hname, hinner⟩ := bind_eq_ok_iff.1 h
      rw [decodeFormatName_eq_ok_iff] at hname
      split at hinner
      . cases hinner
        rw [← hname]
        exact Option.some.inj hfields
      . contradiction
    . contradiction
  . intro h
    rw [h]
    exact bind_eq_ok_iff.2 ⟨format, decodeFormatName_eq_ok_iff.2 rfl, rfl⟩

theorem decodeFormat_datetime (text : String) (format : Format) : decodeFormat (.datetime text) ≠ .ok format := by
  intro h
  unfold decodeFormat at h
  dsimp only [Toml.fields?] at h
  obtain ⟨_, _, h⟩ := bind_eq_ok_iff.1 h
  contradiction

theorem decodeFormat_eq_ok_iff {v : Toml} (hkeys : v.HasDistinctKeys) {format : Format}
    : decodeFormat v = .ok format ↔ IsFormat v format := by
  cases v with
  | string name =>
    constructor
    . intro h
      obtain rfl := decodeFormatName_eq_ok_iff.1 h
      exact .name format
    . intro h
      cases h
      exact decodeFormatName_eq_ok_iff.2 rfl
  | table fields =>
    cases hkeys with
    | table hkeys =>
      rw [decodeFormat_table_eq_ok_iff]
      constructor
      . intro h
        have hperm := Toml.sorted_perm_self hkeys
        rw [h] at hperm
        rw [← List.singleton_perm.1 hperm]
        exact .table format
      . intro h
        cases h
        rfl
  | datetime text =>
    constructor
    . intro h
      exact absurd h (decodeFormat_datetime text format)
    . intro h
      cases h
  | _ =>
    constructor
    . intro h
      contradiction
    . intro h
      cases h

section

variable {decode : Toml → Except DecodeError α} {fields : List (String × Toml)}

theorem decodeEach_eq_ok_iff {entries : List (String × α)}
    : (fields.mapM fun (name, v) => do return (name, ← decode v)) = .ok entries
        ↔
      List.Forall₂ (fun f e => e.1 = f.1 ∧ decode f.2 = .ok e.2) fields entries := by
  rw [mapM_eq_ok_iff]
  apply iff_of_eq
  congr 1
  funext f e
  apply propext
  rw [bind_eq_ok_iff]
  constructor
  . rintro ⟨a, ha, ⟨⟩⟩
    exact ⟨rfl, ha⟩
  . rintro ⟨hname, ha⟩
    exact ⟨e.2, ha, congrArg Except.ok (Prod.ext hname.symm rfl)⟩

theorem map_fst_of_decodeEach {entries : List (String × α)}
    (h : List.Forall₂ (fun f e => e.1 = f.1 ∧ decode f.2 = .ok e.2) fields entries)
    : entries.map Prod.fst = fields.map Prod.fst := by
  induction h with
  | nil => rfl
  | cons hfirst _ ih =>
    rw [List.map_cons]
    rw [List.map_cons]
    rw [ih]
    rw [hfirst.1]

theorem mem_iff_of_decodeEach {entries : List (String × α)}
    (h : List.Forall₂ (fun f e => e.1 = f.1 ∧ decode f.2 = .ok e.2) fields entries) {name : String} {a : α}
    : (name, a) ∈ entries ↔ ∃ v, (name, v) ∈ fields ∧ decode v = .ok a := by
  induction h with
  | nil => simp
  | @cons f e fields entries hfirst _ ih =>
    obtain ⟨key, v⟩ := f
    obtain ⟨_, b⟩ := e
    obtain ⟨rfl, hb⟩ := hfirst
    simp only [List.mem_cons, Prod.mk.injEq, ih, or_and_right, exists_or, and_assoc, exists_and_left, exists_eq_left,
      hb, Except.ok.injEq]
    simp only [eq_comm]

theorem exists_decodeEach (h : ∀ f ∈ fields, ∃ a, decode f.2 = .ok a)
    : ∃ entries : List (String × α), List.Forall₂ (fun f e => e.1 = f.1 ∧ decode f.2 = .ok e.2) fields entries := by
  induction fields with
  | nil => exact ⟨[], .nil⟩
  | cons f fields ih =>
    obtain ⟨⟨a, ha⟩, h⟩ := List.forall_mem_cons.1 h
    obtain ⟨entries, hentries⟩ := ih h
    exact ⟨(f.1, a) :: entries, .cons ⟨rfl, ha⟩ hentries⟩

theorem exists_of_decodeEach {entries : List (String × α)}
    (h : List.Forall₂ (fun f e => e.1 = f.1 ∧ decode f.2 = .ok e.2) fields entries)
    : ∀ f ∈ fields, ∃ a, decode f.2 = .ok a := by
  induction h with
  | nil => simp
  | cons hfirst _ ih =>
    rw [List.forall_mem_cons]
    exact ⟨⟨_, hfirst.2⟩, ih⟩

theorem exists_decodeFields_eq_ok (hkeys : (fields.map Prod.fst).Nodup)
    (h : ∀ name v, (name, v) ∈ fields → ∃ a, decode v = .ok a)
    : ∃ d, decodeFields decode (.table fields) = .ok d := by
  have hsorted : ∀ f ∈ Toml.sorted fields, ∃ a, decode f.2 = .ok a := by
    intro f hf
    exact h f.1 f.2 ((Toml.mem_sorted_iff hkeys).1 hf)
  obtain ⟨entries, hentries⟩ := exists_decodeEach hsorted
  exact ⟨Dict.ofList entries, bind_eq_ok_iff.2 ⟨entries, decodeEach_eq_ok_iff.2 hentries, rfl⟩⟩

theorem accepts_of_decodeFields (hkeys : (fields.map Prod.fst).Nodup) {d : Dict α}
    (h : decodeFields decode (.table fields) = .ok d)
    : ∀ name v, (name, v) ∈ fields → ∃ a, decode v = .ok a := by
  obtain ⟨entries, hentries, _⟩ := bind_eq_ok_iff.1 h
  intro name v hv
  exact exists_of_decodeEach (decodeEach_eq_ok_iff.1 hentries) (name, v) ((Toml.mem_sorted_iff hkeys).2 hv)

theorem mem_iff_of_decodeFields (hkeys : (fields.map Prod.fst).Nodup) {d : Dict α}
    (h : decodeFields decode (.table fields) = .ok d) (name : String) (a : α)
    : (name, a) ∈ d.entries ↔ ∃ v, (name, v) ∈ fields ∧ decode v = .ok a := by
  obtain ⟨entries, hentries, hd⟩ := bind_eq_ok_iff.1 h
  cases hd
  rw [decodeEach_eq_ok_iff] at hentries
  have hnames : (entries.map Prod.fst).Nodup := by
    rw [map_fst_of_decodeEach hentries]
    rw [((Toml.sorted_perm_self hkeys).map Prod.fst).nodup_iff]
    exact hkeys
  rw [Dict.mem_entries_iff]
  rw [Dict.get?_ofList]
  rw [lastValue?_eq_some_iff_mem hnames]
  rw [mem_iff_of_decodeEach hentries]
  simp only [Toml.mem_sorted_iff hkeys]

theorem decodeFields_eq_ok_iff (hkeys : (fields.map Prod.fst).Nodup) {d : Dict α}
    : decodeFields decode (.table fields) = .ok d
        ↔
      (∀ name v, (name, v) ∈ fields → ∃ a, decode v = .ok a)
        ∧ ∀ name a, (name, a) ∈ d.entries ↔ ∃ v, (name, v) ∈ fields ∧ decode v = .ok a := by
  constructor
  . intro h
    exact ⟨accepts_of_decodeFields hkeys h, mem_iff_of_decodeFields hkeys h⟩
  . rintro ⟨haccepts, hd⟩
    obtain ⟨e, he⟩ := exists_decodeFields_eq_ok hkeys haccepts
    rw [he]
    apply congrArg Except.ok
    apply Dict.ext_mem
    intro name a
    exact (mem_iff_of_decodeFields hkeys he name a).trans (hd name a).symm

theorem decodePart_eq_ok_iff (hkeys : (fields.map Prod.fst).Nodup) {key : String} {absent a : α}
    : decodePart (Toml.sorted fields) key absent decode = .ok a
        ↔
      (∃ v, (key, v) ∈ fields ∧ decode v = .ok a) ∨ (∀ v, (key, v) ∉ fields) ∧ a = absent := by
  unfold decodePart
  rw [Toml.lookup_sorted]
  simp only [← lastValue?_eq_some_iff_mem hkeys]
  cases lastValue? key fields with
  | none => simp [eq_comm]
  | some v => simp

theorem decodeVersion_eq_ok_iff (hkeys : (fields.map Prod.fst).Nodup)
    : decodeVersion (Toml.sorted fields) = .ok () ↔ ("_version", .string "1") ∈ fields := by
  rw [← lastValue?_eq_some_iff_mem hkeys]
  unfold decodeVersion
  rw [Toml.lookup_sorted]
  cases lastValue? "_version" fields with
  | none => simp
  | some v => cases v <;> simp

theorem unique_value (hkeys : (fields.map Prod.fst).Nodup) {key : String} {v v' : Toml} (h : (key, v) ∈ fields)
    (h' : (key, v') ∈ fields)
    : v' = v := by
  rw [← lastValue?_eq_some_iff_mem hkeys] at h h'
  rw [h] at h'
  exact (Option.some.inj h').symm

section

variable {IsValue : Toml → α → Prop} {key : String} {d : Dict α}

theorem decodeFields_eq_ok_iff_hasEntries (hkeys : (fields.map Prod.fst).Nodup)
    {entries : List (String × Toml)} (hmem : (key, .table entries) ∈ fields)
    (hentries : (Toml.table entries).HasDistinctKeys)
    (hdecode : ∀ v a, v.HasDistinctKeys → (decode v = .ok a ↔ IsValue v a))
    : decodeFields decode (.table entries) = .ok d
        ↔
      AcceptsEntries fields key IsValue ∧ HasEntries fields key IsValue d := by
  have hunique (v : Toml) : (key, v) ∈ fields ↔ v = .table entries := by
    constructor
    . exact unique_value hkeys hmem
    . rintro rfl
      exact hmem
  cases hentries with
  | table hnames hvalues =>
    rw [decodeFields_eq_ok_iff hnames]
    apply and_congr
    . unfold AcceptsEntries
      simp only [hunique, forall_eq, Toml.table.injEq, exists_eq_left']
      apply forall₃_congr
      intro name v hv
      simp only [hdecode v _ (hvalues name v hv)]
    . unfold HasEntries
      simp only [hunique, Toml.table.injEq, exists_and_left, exists_eq_left]
      apply forall₂_congr
      intro name a
      apply iff_congr Iff.rfl
      apply exists_congr
      intro v
      apply and_congr_right
      intro hv
      exact hdecode v a (hvalues name v hv)

theorem decodeEntries_eq_ok_iff (hkeys : (Toml.table fields).HasDistinctKeys)
    (htable : ∀ v d, (key, v) ∈ fields → decodeFields decode v = .ok d → ∃ entries, v = .table entries)
    (hdecode : ∀ v a, v.HasDistinctKeys → (decode v = .ok a ↔ IsValue v a))
    : decodePart (Toml.sorted fields) key .empty (decodeFields decode) = .ok d
        ↔
      AcceptsEntries fields key IsValue ∧ HasEntries fields key IsValue d := by
  cases hkeys with
  | table hkeys hvalues =>
    rw [decodePart_eq_ok_iff hkeys]
    constructor
    . rintro (⟨v, hv, hd⟩ | ⟨habsent, rfl⟩)
      . obtain ⟨entries, rfl⟩ := htable v d hv hd
        exact (decodeFields_eq_ok_iff_hasEntries hkeys hv (hvalues key _ hv) hdecode).1 hd
      . exact ⟨fun v hv => absurd hv (habsent v), hasEntries_empty habsent⟩
    . rintro ⟨haccepts, hd⟩
      by_cases hpresent : ∃ v, (key, v) ∈ fields
      . obtain ⟨v, hv⟩ := hpresent
        obtain ⟨entries, rfl, _⟩ := haccepts v hv
        exact .inl ⟨_, hv, (decodeFields_eq_ok_iff_hasEntries hkeys hv (hvalues key _ hv) hdecode).2 ⟨haccepts, hd⟩⟩
      . rw [not_exists] at hpresent
        exact .inr ⟨hpresent, hd.unique (hasEntries_empty hpresent)⟩

theorem exists_hasEntries (hkeys : (Toml.table fields).HasDistinctKeys)
    (hdecode : ∀ v a, v.HasDistinctKeys → (decode v = .ok a ↔ IsValue v a))
    (haccepts : AcceptsEntries fields key IsValue)
    : ∃ d, HasEntries fields key IsValue d := by
  cases hkeys with
  | table hkeys hvalues =>
    by_cases hpresent : ∃ v, (key, v) ∈ fields
    . obtain ⟨v, hv⟩ := hpresent
      obtain ⟨entries, rfl, hvalid⟩ := haccepts v hv
      have hentries := hvalues key _ hv
      cases hvalues key _ hv with
      | table hnames hinner =>
        obtain ⟨d, hd⟩ : ∃ d, decodeFields decode (.table entries) = .ok d := by
          apply exists_decodeFields_eq_ok hnames
          intro name v hv
          obtain ⟨a, ha⟩ := hvalid name v hv
          exact ⟨a, (hdecode v a (hinner name v hv)).2 ha⟩
        exact ⟨d, ((decodeFields_eq_ok_iff_hasEntries hkeys hv hentries hdecode).1 hd).2⟩
    . rw [not_exists] at hpresent
      exact ⟨.empty, hasEntries_empty hpresent⟩

end

theorem isTable_of_decodeFields {v : Toml} {d : Dict α} (h : decodeFields decode v = .ok d)
    : (∃ entries, v = .table entries) ∨ ∃ text, v = .datetime text := by
  cases v with
  | table entries => exact .inl ⟨entries, rfl⟩
  | datetime text => exact .inr ⟨text, rfl⟩
  | _ => contradiction

end

section

variable {fields : List (String × Toml)}

theorem decodeRules_eq_ok_iff (hkeys : (Toml.table fields).HasDistinctKeys) {d : Dict Bool}
    : decodePart (Toml.sorted fields) "rules" .empty (decodeFields decodeRule) = .ok d
        ↔
      AcceptsEntries fields "rules" IsRule ∧ HasEntries fields "rules" IsRule d := by
  apply decodeEntries_eq_ok_iff hkeys
  . intro v d _ hd
    obtain htable | ⟨text, rfl⟩ := isTable_of_decodeFields hd
    . exact htable
    -- The only field of a date is a string, which is no rule.
    . contradiction
  . intro v enabled hv
    exact decodeRule_eq_ok_iff hv

theorem decodeVars_eq_ok_iff (hkeys : (Toml.table fields).HasDistinctKeys)
    (hdate : ∀ text, ("variables", .datetime text) ∉ fields) {d : Dict String}
    : decodePart (Toml.sorted fields) "variables" .empty (decodeFields decodeString) = .ok d
        ↔
      AcceptsEntries fields "variables" IsText ∧ HasEntries fields "variables" IsText d := by
  apply decodeEntries_eq_ok_iff hkeys
  . intro v d hv hd
    obtain htable | ⟨text, rfl⟩ := isTable_of_decodeFields hd
    . exact htable
    . exact absurd hv (hdate text)
  . intro v text _
    exact decodeString_eq_ok_iff

theorem ofToml_eq_ok_iff_decoded {c : Config}
    : ofToml (.table fields) = .ok c
        ↔
      decodeVersion (Toml.sorted fields) = .ok ()
        ∧ decodePart (Toml.sorted fields) "format" .table decodeFormat = .ok c.format
        ∧ decodePart (Toml.sorted fields) "rules" .empty (decodeFields decodeRule) = .ok c.rules
        ∧ decodePart (Toml.sorted fields) "variables" .empty (decodeFields decodeString) = .ok c.vars := by
  change ofFields (Toml.sorted fields) = .ok c ↔ _
  unfold ofFields
  simp only [bind_eq_ok_iff]
  constructor
  . rintro ⟨_, hversion, format, hformat, rules, hrules, vars, hvars, ⟨⟩⟩
    exact ⟨hversion, hformat, hrules, hvars⟩
  . rintro ⟨hversion, hformat, hrules, hvars⟩
    exact ⟨(), hversion, _, hformat, _, hrules, _, hvars, rfl⟩

theorem decodeFormat_part_eq_ok_iff (hkeys : (Toml.table fields).HasDistinctKeys) {format : Format}
    : decodePart (Toml.sorted fields) "format" .table decodeFormat = .ok format
        ↔
      (∃ v, ("format", v) ∈ fields ∧ IsFormat v format) ∨ (∀ v, ("format", v) ∉ fields) ∧ format = .table := by
  cases hkeys with
  | table hkeys hvalues =>
    rw [decodePart_eq_ok_iff hkeys]
    apply or_congr_left
    apply exists_congr
    intro v
    apply and_congr_right
    intro hv
    exact decodeFormat_eq_ok_iff (hvalues _ v hv)

/--
A table becomes a configuration exactly if it is acceptable, and then it becomes the one that it describes. A date
is a table of its own kind, so `variables` must not be one.
-/
theorem ofToml_eq_ok_iff (hkeys : (Toml.table fields).HasDistinctKeys)
    (hdate : ∀ text, ("variables", .datetime text) ∉ fields) {c : Config}
    : ofToml (.table fields) = .ok c ↔ IsAcceptable fields ∧ Describes fields c := by
  rw [ofToml_eq_ok_iff_decoded]
  rw [decodeFormat_part_eq_ok_iff hkeys]
  rw [decodeRules_eq_ok_iff hkeys]
  rw [decodeVars_eq_ok_iff hkeys hdate]
  cases hkeys with
  | table hkeys _ =>
    rw [decodeVersion_eq_ok_iff hkeys]
    constructor
    . rintro ⟨hversion, hformat, ⟨hrules, hhasRules⟩, hvars, hhasVars⟩
      refine ⟨⟨hversion, hrules, hvars, ?_⟩, hhasRules, hhasVars, hformat⟩
      intro v hv
      obtain ⟨v', hv', hformat⟩ | ⟨habsent, _⟩ := hformat
      . exact ⟨c.format, unique_value hkeys hv hv' ▸ hformat⟩
      . exact absurd hv (habsent v)
    . rintro ⟨⟨hversion, hrules, hvars, _⟩, hhasRules, hhasVars, hformat⟩
      exact ⟨hversion, hformat, ⟨hrules, hhasRules⟩, hvars, hhasVars⟩

theorem ofText_eq_ok_iff {text : String} (hparsed : Toml.ofText text.toList = .ok (.table fields))
    (hdate : ∀ text, ("variables", .datetime text) ∉ fields) {c : Config}
    : ofText text = .ok c ↔ IsAcceptable fields ∧ Describes fields c := by
  unfold ofText
  rw [hparsed]
  exact ofToml_eq_ok_iff (Toml.hasDistinctKeys_of_ofText hparsed).2 hdate

theorem exists_ofToml_eq_ok_iff (hkeys : (Toml.table fields).HasDistinctKeys)
    (hdate : ∀ text, ("variables", .datetime text) ∉ fields)
    : (∃ c, ofToml (.table fields) = .ok c) ↔ IsAcceptable fields := by
  simp only [ofToml_eq_ok_iff hkeys hdate, exists_and_left, and_iff_left_iff_imp]
  rintro ⟨_, hrules, hvars, hformat⟩
  obtain ⟨rules, hrules⟩ := exists_hasEntries hkeys (fun v _ hv => decodeRule_eq_ok_iff hv) hrules
  obtain ⟨vars, hvars⟩ := exists_hasEntries hkeys (fun v _ _ => decodeString_eq_ok_iff) hvars
  by_cases hpresent : ∃ v, ("format", v) ∈ fields
  . obtain ⟨v, hv⟩ := hpresent
    obtain ⟨format, hformat⟩ := hformat v hv
    exact ⟨⟨rules, vars, format⟩, hrules, hvars, .inl ⟨v, hv, hformat⟩⟩
  . rw [not_exists] at hpresent
    exact ⟨⟨rules, vars, .table⟩, hrules, hvars, .inr ⟨hpresent, rfl⟩⟩

end

end BackendPolicy.Config
