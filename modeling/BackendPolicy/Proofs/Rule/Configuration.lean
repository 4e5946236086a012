import Mathlib.Data.List.Induction
import BackendPolicy.Proofs.Data.Bytes
import BackendPolicy.Proofs.Data.Dict
import BackendPolicy.Rule.Ruleset

/-!
This module contains what a history of configurations makes of a ruleset. The configurations are applied in
place, one after the other, and some of them are rejected. The main statement is `configure_history`: every rule
is switched as the last accepted configuration that names it says, and a rejected one leaves no trace.
-/

namespace BackendPolicy

theorem exceptT_stateM_run_bind {ε σ α β : Type} (action : ExceptT ε (StateM σ) α)
    (next : α → ExceptT ε (StateM σ) β) (s : σ)
    : ((action >>= next).run.run s).run
        =
      match (action.run.run s).run with
      | (.ok a, s) => ((next a).run.run s).run
      | (.error e, s) => (.error e, s) := by
  rw [ExceptT.run_bind]
  rw [StateT.run_bind]
  rw [Id.run_bind]
  rcases (action.run.run s).run with ⟨_ | _, _⟩
  . rfl
  . rfl

theorem Dict.mem_names_iff {α : Type} {d : Dict α} {name : String}
    : name ∈ d.names ↔ ∃ value, d.get? name = some value := by
  simp only [names, List.mem_map, Prod.exists, exists_and_right, exists_eq_right, mem_entries_iff]

namespace Ruleset

def rules (r : Ruleset) : List Rule :=
  r.entries.map Prod.fst

def answerTo (r : Ruleset) (config : Config) : Except UnknownRule Unit × Ruleset :=
  ((configure config).run.run r).run

def afterAll (r : Ruleset) (history : List Config) : Ruleset :=
  history.foldl (fun r config => (r.answerTo config).2) r

def IsUnknown (rules : List Rule) (config : Config) (name : String) : Prop :=
  name ∈ config.rules.names ∧ ∀ rule ∈ rules, rule.info.name ≠ name

def Accepts (rules : List Rule) (config : Config) : Prop :=
  ∀ name ∈ config.rules.names, ∃ rule ∈ rules, rule.info.name = name

instance (rules : List Rule) (config : Config) : Decidable (Accepts rules config) :=
  inferInstanceAs (Decidable (∀ name ∈ config.rules.names, ∃ rule ∈ rules, rule.info.name = name))

/--
Whether a rule is switched on after a history of configurations: as the last accepted configuration that names
it says, or as it is by default if there is none.
-/
inductive IsSwitched (rules : List Rule) (history : List Config) (rule : Rule) : Bool → Prop where
  | configured {before after : List Config} {config : Config} {enabled : Bool}
      (hhistory : history = before ++ config :: after) (haccepts : Accepts rules config)
      (hnames : config.ruleEnabled? rule.info.name = some enabled)
      (hlater : ∀ later ∈ after, Accepts rules later → later.ruleEnabled? rule.info.name = none)
      : IsSwitched rules history rule enabled
  | byDefault (hnever : ∀ config ∈ history, Accepts rules config → config.ruleEnabled? rule.info.name = none)
      : IsSwitched rules history rule rule.info.enabled

def setting? (rules : List Rule) (name : String) (config : Config) : Option Bool :=
  if Accepts rules config then config.ruleEnabled? name else none

def lastSetting? (rules : List Rule) (history : List Config) (name : String) : Option Bool :=
  (history.filterMap (setting? rules name)).getLast?

theorem hasRule_eq_false_iff {r : Ruleset} {name : String}
    : r.hasRule name = false ↔ ∀ rule ∈ r.rules, rule.info.name ≠ name := by
  unfold hasRule rules
  rw [List.any_eq_false]
  rw [List.forall_mem_map]
  simp

theorem exists_isUnknown_iff {rules : List Rule} {config : Config}
    : (∃ name, IsUnknown rules config name) ↔ ¬ Accepts rules config := by
  simp [IsUnknown, Accepts]

theorem run_requireRule (name : String) (r : Ruleset)
    : ((requireRule name).run.run r).run = (if r.hasRule name then .ok () else .error ⟨name⟩, r) := by
  unfold requireRule
  rw [exceptT_stateM_run_bind]
  change StateT.run (ExceptT.run (if !r.hasRule name then throw (UnknownRule.mk name) else pure ())) r = _
  cases r.hasRule name with
  | true => rfl
  | false => rfl

theorem run_forM_requireRule (names : List String) (r : Ruleset)
    : ((names.forM requireRule).run.run r).run
        =
      match names.find? fun name => !r.hasRule name with
      | some name => (.error ⟨name⟩, r)
      | none => (.ok (), r) := by
  induction names with
  | nil => rfl
  | cons name names ih =>
    change ((requireRule name >>= fun _ => names.forM requireRule).run.run r).run = _
    rw [exceptT_stateM_run_bind]
    rw [run_requireRule]
    rw [List.find?_cons]
    cases r.hasRule name with
    | true => exact ih
    | false => rfl

theorem answerTo_eq (r : Ruleset) (config : Config)
    : r.answerTo config
        =
      match config.rules.names.find? fun name => !r.hasRule name with
      | some name => (.error ⟨name⟩, r)
      | none => (.ok (), ⟨r.entries.map (switched config)⟩) := by
  unfold answerTo configure
  rw [exceptT_stateM_run_bind]
  rw [run_forM_requireRule]
  cases config.rules.names.find? fun name => !r.hasRule name with
  | none => rfl
  | some => rfl

theorem switched_eq (config : Config) (entry : Rule × Bool)
    : switched config entry = (entry.1, (config.ruleEnabled? entry.1.info.name).getD entry.2) := by
  unfold switched
  cases config.ruleEnabled? entry.1.info.name with
  | none => rfl
  | some => rfl

/--
Applying a configuration in place leaves what `applyConfig` makes of the ruleset, or all as it was.
-/
theorem applyConfig_eq_answerTo (r : Ruleset) (config : Config)
    : r.applyConfig config = (r.answerTo config).1.map fun _ => (r.answerTo config).2 := by
  rw [answerTo_eq]
  unfold applyConfig
  simp only [← switched_eq]
  cases config.rules.names.find? fun name => !r.hasRule name with
  | none => rfl
  | some => rfl

theorem answerTo_of_accepts {r : Ruleset} {config : Config} (h : Accepts r.rules config)
    : r.answerTo config = (.ok (), ⟨r.entries.map (switched config)⟩) := by
  have hknown : config.rules.names.find? (fun name => !r.hasRule name) = none := by
    rw [List.find?_eq_none]
    intro name hname
    obtain ⟨rule, hrule, heq⟩ := h name hname
    simpa [hasRule_eq_false_iff] using ⟨rule, hrule, heq⟩
  rw [answerTo_eq]
  rw [hknown]

theorem answerTo_of_not_accepts {r : Ruleset} {config : Config} (h : ¬ Accepts r.rules config)
    : ∃ name,
        r.answerTo config = (.error ⟨name⟩, r)
          ∧ IsUnknown r.rules config name
          ∧ ∀ other, IsUnknown r.rules config other → name ≤ other := by
  have hunknown (name : String) : (!r.hasRule name) = true ↔ ∀ rule ∈ r.rules, rule.info.name ≠ name := by
    rw [← hasRule_eq_false_iff]
    rw [Bool.not_eq_true']
  obtain ⟨found, hfound⟩ := exists_isUnknown_iff.2 h
  rw [answerTo_eq]
  cases hfirst : config.rules.names.find? fun name => !r.hasRule name with
  | none =>
    rw [List.find?_eq_none] at hfirst
    exact absurd ((hunknown found).2 hfound.2) (hfirst found hfound.1)
  | some name =>
    obtain ⟨hname, before, after, hnames, hbefore⟩ := List.find?_eq_some_iff_append.1 hfirst
    refine ⟨name, rfl, ⟨by simp [hnames], (hunknown name).1 hname⟩, ?_⟩
    intro other ⟨hmem, hother⟩
    have hsorted : config.rules.names.Pairwise (· < ·) := List.pairwise_map.2 config.rules.sorted
    -- An unknown name is not before the first one, and what is after it is greater.
    rw [hnames] at hmem hsorted
    obtain hmem | hmem := List.mem_append.1 hmem
    . have := hbefore other hmem
      rw [(hunknown other).2 hother] at this
      contradiction
    . obtain rfl | hmem := List.mem_cons.1 hmem
      . exact String.le_refl _
      . have hlt := (List.pairwise_cons.1 (List.pairwise_append.1 hsorted).2.1).1 other hmem
        exact le_of_lt hlt

theorem rules_answerTo (r : Ruleset) (config : Config) : (r.answerTo config).2.rules = r.rules := by
  by_cases haccepts : Accepts r.rules config
  . rw [answerTo_of_accepts haccepts]
    unfold rules
    rw [List.map_map]
    apply List.map_congr_left
    intro entry _
    rw [Function.comp_apply]
    rw [switched_eq]
  . obtain ⟨_, hanswer, _⟩ := answerTo_of_not_accepts haccepts
    rw [hanswer]

theorem exists_answerTo_eq_error_iff {r : Ruleset} {config : Config}
    : (∃ e, (r.answerTo config).1 = .error e) ↔ ¬ Accepts r.rules config := by
  by_cases haccepts : Accepts r.rules config
  . rw [answerTo_of_accepts haccepts]
    simp [haccepts]
  . obtain ⟨name, hanswer, _⟩ := answerTo_of_not_accepts haccepts
    rw [hanswer]
    simp [haccepts]

theorem of_answerTo_eq_error {r : Ruleset} {config : Config} {e : UnknownRule}
    (h : (r.answerTo config).1 = .error e)
    : (r.answerTo config).2 = r
        ∧ IsUnknown r.rules config e.name
        ∧ ∀ name, IsUnknown r.rules config name → utf8Bytes e.name ≤ utf8Bytes name := by
  obtain ⟨name, hanswer, hunknown, hleast⟩ := answerTo_of_not_accepts (exists_answerTo_eq_error_iff.1 ⟨e, h⟩)
  rw [hanswer] at h ⊢
  cases h
  refine ⟨rfl, hunknown, ?_⟩
  intro other hother
  rw [utf8Bytes_le_iff]
  exact hleast other hother

theorem answerTo_answerTo_of_ok {r : Ruleset} {config : Config} (h : (r.answerTo config).1 = .ok ())
    : (r.answerTo config).2.answerTo config = (.ok (), (r.answerTo config).2) := by
  have haccepts : Accepts r.rules config := by
    by_contra hnot
    obtain ⟨e, he⟩ := exists_answerTo_eq_error_iff.2 hnot
    rw [he] at h
    contradiction
  have hagain : Accepts (r.answerTo config).2.rules config := by
    rw [rules_answerTo]
    exact haccepts
  rw [answerTo_of_accepts hagain]
  rw [answerTo_of_accepts haccepts]
  dsimp only
  rw [List.map_map]
  congr 2
  apply List.map_congr_left
  intro entry _
  rw [Function.comp_apply]
  rw [switched_eq]
  rw [switched_eq]
  cases config.ruleEnabled? entry.1.info.name with
  | none => rfl
  | some => rfl

theorem rules_eq_of_entries_eq {r : Ruleset} {rules : List Rule} {enabled : Rule → Bool}
    (h : r.entries = rules.map fun rule => (rule, enabled rule))
    : r.rules = rules := by
  unfold Ruleset.rules
  rw [h]
  rw [List.map_map]
  exact List.map_id rules

theorem entries_answerTo {r : Ruleset} {rules : List Rule} {enabled : Rule → Bool}
    (h : r.entries = rules.map fun rule => (rule, enabled rule)) (config : Config)
    : (r.answerTo config).2.entries
        =
      rules.map fun rule => (rule, (setting? rules rule.info.name config).getD (enabled rule)) := by
  have hrules : r.rules = rules := rules_eq_of_entries_eq h
  unfold setting?
  by_cases haccepts : Accepts rules config
  . rw [answerTo_of_accepts (hrules ▸ haccepts)]
    dsimp only
    rw [h]
    rw [List.map_map]
    apply List.map_congr_left
    intro rule _
    rw [Function.comp_apply]
    rw [switched_eq]
    rw [if_pos haccepts]
  . obtain ⟨_, hanswer, _⟩ := answerTo_of_not_accepts (hrules ▸ haccepts)
    rw [hanswer]
    simp only [haccepts, ↓reduceIte, Option.getD_none]
    exact h

theorem setting?_eq_some_iff {rules : List Rule} {name : String} {config : Config} {enabled : Bool}
    : setting? rules name config = some enabled
        ↔
      Accepts rules config ∧ config.ruleEnabled? name = some enabled := by
  unfold setting?
  split
  . next h => simp [h]
  . next h => simp [h]

theorem setting?_eq_none_iff {rules : List Rule} {name : String} {config : Config}
    : setting? rules name config = none ↔ (Accepts rules config → config.ruleEnabled? name = none) := by
  unfold setting?
  split
  . next h => simp [h]
  . next h => simp [h]

theorem lastSetting?_append (rules : List Rule) (history : List Config) (config : Config) (name : String)
    : lastSetting? rules (history ++ [config]) name
        =
      (setting? rules name config).or (lastSetting? rules history name) := by
  unfold lastSetting?
  rw [List.filterMap_append]
  rw [List.getLast?_append]
  congr 1
  cases h : setting? rules name config with
  | none => simp [h]
  | some => simp [h]

theorem lastSetting?_eq_none_iff {rules : List Rule} {history : List Config} {name : String}
    : lastSetting? rules history name = none
        ↔
      ∀ config ∈ history, Accepts rules config → config.ruleEnabled? name = none := by
  unfold lastSetting?
  rw [List.getLast?_eq_none_iff]
  rw [List.filterMap_eq_nil_iff]
  simp only [setting?_eq_none_iff]

theorem isSwitched_iff {rules : List Rule} {history : List Config} {rule : Rule} {enabled : Bool}
    : IsSwitched rules history rule enabled
        ↔
      (lastSetting? rules history rule.info.name).getD rule.info.enabled = enabled := by
  have hsome (value : Bool)
      : lastSetting? rules history rule.info.name = some value
          ↔
        ∃ before config after,
          history = before ++ config :: after
            ∧ setting? rules rule.info.name config = some value
            ∧ ∀ later ∈ after, setting? rules rule.info.name later = none :=
    getLast?_filterMap_eq_some_iff
  simp only [setting?_eq_some_iff, setting?_eq_none_iff] at hsome
  constructor
  . intro h
    cases h with
    | configured hhistory haccepts hnames hlater =>
      rw [(hsome _).2 ⟨_, _, _, hhistory, ⟨haccepts, hnames⟩, hlater⟩]
      rfl
    | byDefault hnever =>
      rw [lastSetting?_eq_none_iff.2 hnever]
      rfl
  . rintro rfl
    cases hlast : lastSetting? rules history rule.info.name with
    | none => exact .byDefault (lastSetting?_eq_none_iff.1 hlast)
    | some value =>
      obtain ⟨_, _, _, hhistory, ⟨haccepts, hnames⟩, hlater⟩ := (hsome value).1 hlast
      exact .configured hhistory haccepts hnames hlater

theorem entries_afterAll (rules : List Rule) (history : List Config)
    : ((ofRules rules).afterAll history).entries
        =
      rules.map fun rule => (rule, (lastSetting? rules history rule.info.name).getD rule.info.enabled) := by
  induction history using List.reverseRecOn with
  | nil => rfl
  | append_singleton history config ih =>
    have hstep : (ofRules rules).afterAll (history ++ [config])
        = (((ofRules rules).afterAll history).answerTo config).2 := by
      unfold afterAll
      rw [List.foldl_append]
      rfl
    rw [hstep]
    rw [entries_answerTo ih]
    apply List.map_congr_left
    intro rule _
    rw [lastSetting?_append]
    cases setting? rules rule.info.name config with
    | none => rfl
    | some => rfl

theorem rules_afterAll (rules : List Rule) (history : List Config)
    : ((ofRules rules).afterAll history).rules = rules :=
  rules_eq_of_entries_eq (entries_afterAll rules history)

theorem eq_lastSetting?_of_mem {rules : List Rule} {history : List Config} {entry : Rule × Bool}
    (h : entry ∈ ((ofRules rules).afterAll history).entries)
    : entry.2 = (lastSetting? rules history entry.1.info.name).getD entry.1.info.enabled := by
  rw [entries_afterAll] at h
  obtain ⟨rule, _, rfl⟩ := List.mem_map.1 h
  rfl

theorem eq_of_info_name_eq {rules : List Rule} {history : List Config} {a b : Rule × Bool}
    (ha : a ∈ ((ofRules rules).afterAll history).entries) (hb : b ∈ ((ofRules rules).afterAll history).entries)
    (hname : a.1.info.name = b.1.info.name) {config : Config} (hconfig : config ∈ history)
    (haccepts : Accepts rules config) (hmem : a.1.info.name ∈ config.rules.names)
    : a.2 = b.2 := by
  rw [eq_lastSetting?_of_mem ha]
  rw [eq_lastSetting?_of_mem hb]
  rw [← hname]
  cases hlast : lastSetting? rules history a.1.info.name with
  | some => rfl
  | none =>
    obtain ⟨enabled, henabled⟩ := Dict.mem_names_iff.1 hmem
    have hnone : config.ruleEnabled? a.1.info.name = none :=
      lastSetting?_eq_none_iff.1 hlast config hconfig haccepts
    rw [Config.ruleEnabled?] at hnone
    rw [hnone] at henabled
    contradiction

end Ruleset

end BackendPolicy
