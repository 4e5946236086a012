import BackendPolicy.Proofs.Module.Backends

/-!
This module contains the policy on modules, stated on their files, and the verdict of a check: it is clean for
the modules that comply and only for them.
-/

namespace BackendPolicy

/--
Whether the last attribute of a name in a body evaluates to a value that is written as a text.
-/
def EvaluatesTo (index : LineIndex) (body : Body) (name : String) (scope : Scope) (text : String) : Prop :=
  ∃ found v,
    IsLastAttribute index body name found ∧ found.value.eval scope = .ok v ∧ v.asString = .ok text

namespace Module

open BackendType

def VariablesComply (m : Module) : Prop :=
  ∀ file ∈ m.files, ∀ kindSpan labels body, .block "variable" kindSpan labels body ∈ file.body
    → labels.length = 1
        ∧ ∀ found, IsLastAttribute file.index body "default" found → ∃ v, found.value.eval [] = .ok v

def BackendComplies (index : LineIndex) (scope : Scope) (labels : List Label) (body : Body) : Prop :=
  (∃ label, labels = [label] ∧ label.text = "http")
    ∧ EvaluatesTo index body "lock_method" scope "POST"
    ∧ EvaluatesTo index body "unlock_method" scope "DELETE"

def BackendsComply (m : Module) (vars : Variables) : Prop :=
  ∀ file ∈ m.files, ∀ kindSpan labels body, .block "terraform" kindSpan labels body ∈ file.body
    → labels = []
        ∧ ∀ kindSpan labels inner, .block "backend" kindSpan labels inner ∈ body
            → BackendComplies file.index vars.scope labels inner

/--
Whether a module complies with the policy under given variables.
-/
structure Complies (m : Module) (vars : Variables) : Prop where
  declarations : m.VariablesComply
  backends : m.BackendsComply vars

theorem structureFaults_variableSchema_eq_nil_iff {index : LineIndex} {s : Structure}
    : structureFaults index variableSchema s = []
        ↔
      ∀ kindSpan labels body, s = .block "variable" kindSpan labels body → labels.length = 1 :=
  structureFaults_ofBlock_eq_nil_iff index variableEntry rfl

theorem declaration?_eq_some_iff {index : LineIndex} {s : Structure}
    {declaration : String × Except RunError Value}
    : declaration? index s = some declaration
        ↔
      ∃ kindSpan labels body,
        s = .block "variable" kindSpan labels body
          ∧ ∃ found,
              IsLastAttribute index body "default" found
                ∧ declaration = ((labels.map Label.text).headD "", found.eval []) := by
  rcases s with _ | ⟨kind, kindSpan, labels, body⟩
  . simp [declaration?]
  . dsimp only [declaration?]
    split
    . next h =>
      simp only [← attributeOf?_eq_some_iff]
      simp [h, eq_comm]
    . next h => simp [h]

variable (m : Module)

theorem declarationFaults_eq_nil_iff : m.declarationFaults = [] ↔ m.VariablesComply := by
  unfold declarationFaults declarations
  rw [List.append_eq_nil_iff]
  rw [fileFaults_eq_nil_iff]
  rw [failuresOf_eq_nil_iff]
  simp only [structureFaults_variableSchema_eq_nil_iff, List.forall_mem_flatMap, List.mem_filterMap,
    declaration?_eq_some_iff]
  constructor
  . intro ⟨hlabels, hdefaults⟩ file hfile kindSpan labels body hmem
    refine ⟨hlabels file hfile _ hmem _ _ _ rfl, ?_⟩
    intro found hfound
    obtain ⟨v, hv⟩ := hdefaults file hfile _ ⟨_, hmem, _, _, _, rfl, found, hfound, rfl⟩
    exact ⟨v, Attribute.eval_eq_ok_iff.1 hv⟩
  . intro h
    constructor
    . rintro file hfile s hmem kindSpan labels body rfl
      exact (h file hfile kindSpan labels body hmem).1
    . rintro file hfile _ ⟨_, hmem, kindSpan, labels, body, rfl, found, hfound, rfl⟩
      obtain ⟨v, hv⟩ := (h file hfile kindSpan labels body hmem).2 found hfound
      exact ⟨v, Attribute.eval_eq_ok_iff.2 hv⟩

theorem firstShortfall?_backendOf_eq_none_iff {index : LineIndex} {scope : Scope} {kindSpan : Span}
    {labels : List Label} {body : Body}
    : firstShortfall? (fun a => a.evalString scope) (backendOf index kindSpan labels body) requirements = none
        ↔
      BackendComplies index scope labels body := by
  rw [firstShortfall?_eq_none_iff]
  dsimp only [backendOf]
  rw [List.map_eq_singleton_iff]
  have hget (name : String) (hname : name ∈ ["address", "lock_method", "unlock_method"])
      : (selectedBody index backendEntry body).attributes.get? name = attributeOf? index name body :=
    get?_selectedBody_ofAttributes index rfl hname body
  simp only [policies, List.forall_mem_cons, List.not_mem_nil, false_implies, implies_true, and_true]
  unfold lockPolicy unlockPolicy
  dsimp only
  rw [hget "lock_method" (by simp)]
  rw [hget "unlock_method" (by simp)]
  simp only [attributeOf?_eq_some_iff, Attribute.evalString_eq_ok_iff]
  simp only [BackendComplies, EvaluatesTo, exists_and_left]

variable (vars : Variables)

theorem policyCheck_eq_ok_nil_iff : m.policyCheck vars = .ok [] ↔ m.BackendsComply vars := by
  unfold policyCheck
  dsimp only
  rw [orFirst_bind_eq_ok_iff]
  rw [reported_eq_ok_nil_iff]
  rw [List.findSome?_eq_none_iff]
  unfold backendFaults backends
  simp only [List.flatMap_eq_nil_iff, List.forall_mem_flatMap, backendFaultsOf_eq_nil_iff, mem_backendsOf_iff]
  constructor
  . intro ⟨hlabels, hbackends⟩ file hfile kindSpan labels body hmem
    refine ⟨(hlabels file hfile _ hmem _ _ _ rfl).1, ?_⟩
    intro backendSpan backendLabels inner hinner
    rw [← firstShortfall?_backendOf_eq_none_iff]
    exact hbackends file hfile _ hmem _ ⟨_, _, _, rfl, backendSpan, backendLabels, inner, hinner, rfl⟩
  . intro h
    constructor
    . rintro file hfile s hmem kindSpan labels body rfl
      obtain ⟨hlabels, hbackends⟩ := h file hfile kindSpan labels body hmem
      refine ⟨hlabels, ?_⟩
      intro backendSpan backendLabels inner hinner
      -- A backend of the right type has one label, so the labels are in order too.
      obtain ⟨⟨label, hlabel, _⟩, _⟩ := hbackends backendSpan backendLabels inner hinner
      rw [hlabel]
      rfl
    . rintro file hfile s hmem backend ⟨kindSpan, labels, body, rfl, _, _, _, hinner, rfl⟩
      rw [firstShortfall?_backendOf_eq_none_iff]
      exact (h file hfile kindSpan labels body hmem).2 _ _ _ hinner

theorem variablesFor_eq_ok_iff {config : Config} {given : List (String × Value)} {vars : Variables}
    : m.variablesFor config given = .ok vars
        ↔
      m.VariablesComply ∧ m.finalVariables config given = vars := by
  rw [variablesFor_eq_orFirst]
  rw [orFirst_eq_ok_iff]
  rw [declarationFaults_eq_nil_iff]

theorem check_eq_ok_nil_iff {rules : Ruleset} (config : Config) (given : List (String × Value))
    (h : rules.enabled = [rule])
    : m.check rules config given = .ok [] ↔ m.Complies (m.finalVariables config given) := by
  rw [check_eq_policyCheck m config given h]
  rw [orFirst_bind_eq_ok_iff]
  rw [declarationFaults_eq_nil_iff]
  rw [policyCheck_eq_ok_nil_iff]
  constructor
  . intro ⟨hvariables, hbackends⟩
    exact ⟨hvariables, hbackends⟩
  . intro hcomplies
    exact ⟨hcomplies.declarations, hcomplies.backends⟩

theorem check_cases {rules : Ruleset} (config : Config) (given : List (String × Value))
    (h : rules.enabled = [rule])
    : (∃ e, m.check rules config given = .error e)
        ∨ m.check rules config given = .ok []
        ∨ ∃ issue, m.check rules config given = .ok [issue] := by
  rw [check_eq_policyCheck m config given h]
  cases m.declarationFaults with
  | cons e faults => exact .inl ⟨e, rfl⟩
  | nil =>
    dsimp only [orFirst_nil, bind, Except.bind]
    unfold policyCheck
    cases m.backendFaults with
    | cons e faults => exact .inl ⟨e, rfl⟩
    | nil => apply reported_cases

/--
Under a configuration that does not switch the rule off, a check is clean for the modules that comply. For
all others it fails or yields one issue.
-/
theorem check_verdict {rules : Ruleset} {config : Config}
    (hrules : Ruleset.builtin.applyConfig config = .ok rules)
    (henabled : config.ruleEnabled? "terraform_backend_type" ≠ some false) (given : List (String × Value))
    : (m.VariablesComply → m.variablesFor config given = .ok (m.finalVariables config given))
        ∧ (m.check rules config given = .ok [] ↔ m.Complies (m.finalVariables config given))
        ∧ (¬ m.Complies (m.finalVariables config given)
            → (∃ e, m.check rules config given = .error e)
                ∨ ∃ issue, m.check rules config given = .ok [issue]) := by
  have h := Ruleset.enabled_eq_rule hrules henabled
  have hclean := m.check_eq_ok_nil_iff config given h
  refine ⟨?_, hclean, ?_⟩
  . intro hvariables
    rw [variablesFor_eq_ok_iff]
    exact ⟨hvariables, rfl⟩
  . intro hcomplies
    obtain hfails | hempty | hone := m.check_cases config given h
    . exact .inl hfails
    . exact absurd (hclean.1 hempty) hcomplies
    . exact .inr hone

def lockedByVariable : Module where
  files := [
    { index := .ofSource "a.tf" "variable \"lock\" \x7b\n  default = \"PUT\"\n\x7d\n"
      body := [
        .block "variable" ⟨0, 8⟩ [⟨"lock", ⟨9, 15⟩⟩] [
          .attribute "default" (.string "PUT") ⟨20, 35⟩ ⟨30, 35⟩]] },
    { index := .ofSource "b.tf" <|
        "terraform \x7b\n  "
          ++ "backend \"http\" \x7b\n    lock_method = var.lock\n    unlock_method = \"DELETE\"\n  \x7d\n\x7d\n"
      body := [
        .block "terraform" ⟨0, 9⟩ [] [
          .block "backend" ⟨14, 21⟩ [⟨"http", ⟨22, 28⟩⟩] [
            .attribute "lock_method" (.traversal (.variable "var") [.field "lock"]) ⟨35, 57⟩ ⟨49, 57⟩,
            .attribute "unlock_method" (.string "DELETE") ⟨62, 86⟩ ⟨78, 86⟩]]] }]

theorem check_verdict_of_override
    : lockedByVariable.check .builtin .default [("lock", .string "POST")] = .ok []
        ∧ lockedByVariable.Complies (lockedByVariable.finalVariables .default [("lock", .string "POST")])
        ∧ lockedByVariable.check .builtin .default []
            = .ok [⟨"terraform_backend_type", .error, "\"lock_method\" must be \"POST\"",
                "b.tf", ⟨3, 5, 35⟩, ⟨3, 27, 57⟩⟩]
        ∧ ¬ lockedByVariable.Complies (lockedByVariable.finalVariables .default []) := by
  have hrules : Ruleset.builtin.applyConfig .default = .ok .builtin := by rfl
  have henabled : Config.default.ruleEnabled? "terraform_backend_type" ≠ some false := by decide
  have hclean : lockedByVariable.check .builtin .default [("lock", .string "POST")] = .ok [] := by
    with_unfolding_all rfl
  have hissue : lockedByVariable.check .builtin .default []
      = .ok [⟨"terraform_backend_type", .error, "\"lock_method\" must be \"POST\"",
          "b.tf", ⟨3, 5, 35⟩, ⟨3, 27, 57⟩⟩] := by
    with_unfolding_all rfl
  refine ⟨hclean, (lockedByVariable.check_verdict hrules henabled _).2.1.1 hclean, hissue, ?_⟩
  rw [← (lockedByVariable.check_verdict hrules henabled []).2.1]
  rw [hissue]
  simp

end Module

end BackendPolicy
