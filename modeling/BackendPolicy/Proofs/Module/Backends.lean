import BackendPolicy.Proofs.Module.Variables
import BackendPolicy.Proofs.Rule.Session

/-!
This module contains the backends of a module, read off its files, and the check of a module in terms of
them: `check_eq_policyCheck` says what the check yields without mentioning content, programs or hosts.
-/

namespace BackendPolicy

namespace BackendType

def backendEntry : BlockSchema where
  kind := "backend"
  labelNames := ["type"]
  body := some (.ofAttributes ["address", "lock_method", "unlock_method"])

def terraformEntry : BlockSchema where
  kind := "terraform"
  body := some (.ofBlock backendEntry)

theorem schema_eq_ofBlock : schema = .ofBlock terraformEntry := rfl

def backendOf (index : LineIndex) (kindSpan : Span) (labels : List Label) (body : Body) : Block where
  kind := "backend"
  labels := labels.map Label.text
  body := selectedBody index backendEntry body
  headRange := headOf index kindSpan labels
  kindRange := index.range kindSpan
  labelRanges := labels.map fun label => index.range label.span

def backendsOf (index : LineIndex) : Structure → List Block
  | .attribute _ _ _ _ => []
  | .block kind _ _ body =>
    if kind = "terraform" then body.filterMap (selectedBlock? index (.ofBlock backendEntry)) else []

def backendFaultsOf (index : LineIndex) : Structure → List RunError
  | .attribute _ _ _ _ => []
  | .block kind kindSpan labels body =>
    if kind = "terraform" then
      labelFaults index terraformEntry kindSpan labels
        ++ body.flatMap (structureFaults index (.ofBlock backendEntry))
    else
      []

variable (index : LineIndex)

theorem flatMap_selectedBlock? (s : Structure)
    : ((selectedBlock? index schema s).toList.flatMap fun terraform => terraform.body.blocks)
        =
      backendsOf index s := by
  rcases s with _ | ⟨kind, kindSpan, labels, body⟩
  . rfl
  . rw [schema_eq_ofBlock]
    rw [selectedBlock?_ofBlock]
    unfold backendsOf
    change (Option.toList (if kind = "terraform" then _ else _)).flatMap _ = if kind = "terraform" then _ else _
    by_cases h : kind = "terraform"
    . rw [if_pos h]
      rw [if_pos h]
      rw [← selectedBlocks_eq_filterMap]
      simp [selectedBody, terraformEntry, select]
    . rw [if_neg h]
      rw [if_neg h]
      rfl

theorem structureFaults_schema (s : Structure)
    : structureFaults index schema s = backendFaultsOf index s := by
  rcases s with _ | ⟨kind, kindSpan, labels, body⟩
  . rfl
  . rw [schema_eq_ofBlock]
    rw [structureFaults_ofBlock]
    rw [innerFaults_ofBlock index _ rfl]
    rw [faults_eq_flatMap]
    rfl

theorem backendFaultsOf_eq_nil_iff {s : Structure}
    : backendFaultsOf index s = []
        ↔
      ∀ kindSpan labels body, s = .block "terraform" kindSpan labels body
        → labels = []
            ∧ ∀ kindSpan labels inner, .block "backend" kindSpan labels inner ∈ body → labels.length = 1 := by
  rcases s with _ | ⟨kind, kindSpan, labels, body⟩
  . simp [backendFaultsOf]
  . dsimp only [backendFaultsOf]
    split
    . next h =>
      rw [List.append_eq_nil_iff]
      rw [labelFaults_eq_nil_iff]
      rw [List.flatMap_eq_nil_iff]
      simp only [structureFaults_ofBlock_eq_nil_iff index backendEntry rfl]
      constructor
      . rintro ⟨hlabels, hinner⟩ _ _ _ hs
        cases hs
        refine ⟨List.length_eq_zero_iff.1 hlabels, ?_⟩
        intro kindSpan labels inner hmem
        exact hinner _ hmem kindSpan labels inner rfl
      . intro hs
        obtain ⟨hlabels, hinner⟩ := hs kindSpan labels body (by rw [h])
        refine ⟨List.length_eq_zero_iff.2 hlabels, ?_⟩
        rintro s hmem kindSpan labels inner rfl
        exact hinner kindSpan labels inner hmem
    . next h => simp [h]

theorem selectedBlock?_backend (kindSpan : Span) (labels : List Label) (body : Body)
    : selectedBlock? index (.ofBlock backendEntry) (.block "backend" kindSpan labels body)
        =
      some (backendOf index kindSpan labels body) := by
  rw [selectedBlock?_ofBlock]
  rfl

theorem selectedBlock?_backendEntry_eq_some_iff {s : Structure} {backend : Block}
    : selectedBlock? index (.ofBlock backendEntry) s = some backend
        ↔
      ∃ kindSpan labels body,
        s = .block "backend" kindSpan labels body ∧ backend = backendOf index kindSpan labels body := by
  rcases s with _ | ⟨kind, kindSpan, labels, body⟩
  . simp [selectedBlock?]
  . by_cases h : kind = "backend"
    . subst h
      rw [selectedBlock?_backend]
      simp [eq_comm]
    . have : kind ≠ backendEntry.kind := h
      simp [selectedBlock?_ofBlock, h, this]

theorem mem_backendsOf_iff {s : Structure} {backend : Block}
    : backend ∈ backendsOf index s
        ↔
      ∃ kindSpan labels body,
        s = .block "terraform" kindSpan labels body
          ∧ ∃ kindSpan labels inner,
              .block "backend" kindSpan labels inner ∈ body
                ∧ backend = backendOf index kindSpan labels inner := by
  rcases s with _ | ⟨kind, kindSpan, labels, body⟩
  . simp [backendsOf]
  . dsimp only [backendsOf]
    split
    . next h =>
      simp only [List.mem_filterMap, selectedBlock?_backendEntry_eq_some_iff]
      simp [h]
    . next h => simp [h]

end BackendType

namespace Module

open BackendType

def backends (m : Module) : List Block :=
  m.files.flatMap fun file => file.body.flatMap (backendsOf file.index)

def backendFaults (m : Module) : List RunError :=
  m.files.flatMap fun file => file.body.flatMap (backendFaultsOf file.index)

variable (m : Module)

theorem backends_selected : BackendType.backends (m.selected schema) = m.backends := by
  unfold BackendType.backends backends
  rw [blocks_selected]
  rw [List.flatMap_assoc]
  congr 1
  funext file
  rw [selectedBlocks_eq_filterMap]
  induction file.body with
  | nil => rfl
  | cons s rest ih =>
    rw [List.flatMap_cons]
    rw [← ih]
    rw [← flatMap_selectedBlock?]
    rw [List.filterMap_cons]
    cases selectedBlock? file.index schema s with
    | none => rfl
    | some terraform => simp

theorem fileFaults_schema : m.fileFaults schema = m.backendFaults := by
  unfold fileFaults backendFaults
  congr 1
  funext file
  rw [faults_eq_flatMap]
  congr 1
  funext s
  apply structureFaults_schema

theorem content_schema : m.content schema = orFirst m.backendFaults (m.selected schema) := by
  rw [content_eq_orFirst]
  rw [contentFaults_of_forall_not_required]
  . rw [fileFaults_schema]
  . intro a ha
    cases ha

/--
What the policy says about a module under given variables: the first fault of its labels, or else what the
first shortfall of its backends yields.
-/
def policyCheck (m : Module) (vars : Variables) : Except RunError (List Issue) :=
  let evaluate (a : Attribute) := a.evalString vars.scope
  orFirst m.backendFaults m.backends >>= fun backends =>
    reported (backends.findSome? fun backend => firstShortfall? evaluate backend requirements)

theorem run_rule (vars : Variables)
    : ((rule.run (Session.start m vars).host).result >>= fun _ =>
        .ok (rule.run (Session.start m vars).host).emitted)
        =
      m.policyCheck vars := by
  have hcontent : (Session.start m vars).host.content schema = orFirst m.backendFaults (m.selected schema) :=
    m.content_schema
  unfold policyCheck
  cases hfaults : m.backendFaults with
  | cons e faults =>
    rw [hfaults] at hcontent
    rw [run_rule_of_error _ hcontent]
    rfl
  | nil =>
    rw [hfaults] at hcontent
    rw [← fileFaults_schema] at hfaults
    have hlabels := labels_of_blockConforms (m.blockConforms_of_fileFaults_eq_nil schema hfaults)
    have hsettles := rule_settles _ hcontent hlabels
    rw [reported_of_settles (fun _ => rfl) hsettles]
    rw [contentShortfall?_eq_findSome?]
    rw [backends_selected]
    rfl

variable {rules : Ruleset} (config : Config) (given : List (String × Value))

/--
A check settles the variables and then yields what the policy says, or nothing if the rule is switched off.
-/
theorem check_eq_policyCheck (h : rules.enabled = [rule])
    : m.check rules config given
        =
      orFirst m.declarationFaults (m.finalVariables config given) >>= m.policyCheck := by
  unfold check
  rw [variablesFor_eq_orFirst]
  congr 1
  funext vars
  rw [← run_rule]
  unfold Session.check Ruleset.run
  rw [h]
  rw [Ruleset.runAll_singleton]
  dsimp only [Session.keep]
  rw [Rule.issues_run_eq_emitted]
  . rfl
  . intro issue
    rfl

theorem check_eq_of_disabled (h : rules.enabled = [])
    : m.check rules config given
        =
      orFirst m.declarationFaults (m.finalVariables config given) >>= fun _ => .ok [] := by
  unfold check
  rw [variablesFor_eq_orFirst]
  congr 1
  funext vars
  unfold Session.check Ruleset.run
  rw [h]
  rfl

end Module

end BackendPolicy
