import BackendPolicy.Proofs.Body.Conformity
import BackendPolicy.Proofs.Rule.Program
import BackendPolicy.Rule.BackendType

/-!
This module contains the policy on state backends as a list of requirements, and the rule as a search for
the first one that is not met. The main statement is `check_settles`: on every host the rule ends as the first
unmet requirement of the first backend that has one demands.
-/

namespace BackendPolicy.BackendType

inductive Requirement where
  | type
  | presence (policy : MethodPolicy)
  | verb (policy : MethodPolicy)
deriving DecidableEq, Repr

def requirements : List Requirement :=
  [.type, .presence lockPolicy, .verb lockPolicy, .presence unlockPolicy, .verb unlockPolicy]

def methodRequirements (policies : List MethodPolicy) : List Requirement :=
  policies.flatMap fun policy => [.presence policy, .verb policy]

/--
Why a requirement is not met: the value that it is about cannot be evaluated, or the policy is violated.
-/
inductive Shortfall where
  | failure (e : RunError)
  | violation (message : String) (range : Range)

def Requirement.shortfall? (evaluate : Attribute → Except RunError String) (backend : Block) :
    Requirement → Option Shortfall
  | type =>
    if backend.labels = ["http"] then
      none
    else
      let found := backend.labels.headD ""
      some (.violation s!"backend type must be 'http', but found '{found}'" backend.headRange)
  | presence policy =>
    match backend.body.attributes.get? policy.key with
    | some _ => none
    | none => some (.violation s!"\"{policy.key}\" attribute is required" backend.headRange)
  | verb policy =>
    match backend.body.attributes.get? policy.key with
    | none => none
    | some found =>
      match evaluate found with
      | .error e => some (.failure e)
      | .ok text =>
        if text = policy.verb then
          none
        else
          some (.violation s!"\"{policy.key}\" must be \"{policy.verb}\"" found.range)

def firstShortfall? (evaluate : Attribute → Except RunError String) (backend : Block)
    (requirements : List Requirement) : Option Shortfall :=
  requirements.findSome? fun requirement => requirement.shortfall? evaluate backend

/--
The first shortfall of the first backend that has one: `terraform` blocks in order, and in each of them the
backends in order.
-/
def contentShortfall? (evaluate : Attribute → Except RunError String) (content : BodyContent) :
    Option Shortfall :=
  content.blocks.findSome? fun terraform =>
    terraform.body.blocks.findSome? fun backend => firstShortfall? evaluate backend requirements

/--
Whether a run of the rule ended as the first shortfall demands. Without one it is silent. A failure is passed
on silently. A violation is reported once, and the host's answer to the report is the result.
-/
def Settles (host : Host) (r : Run Unit) : Option Shortfall → Prop
  | none => r.emitted = [] ∧ r.result = .ok ()
  | some (.failure e) => r.emitted = [] ∧ r.result = .error e
  | some (.violation message range) =>
    let issue : Issue := ⟨"terraform_backend_type", .error, message, range⟩
    r.emitted = [issue] ∧ r.result = host.accept issue

def Finds (r : Run (Option (Violation × Range))) : Option Shortfall → Prop
  | none => r.emitted = [] ∧ r.result = .ok none
  | some (.failure e) => r.emitted = [] ∧ r.result = .error e
  | some (.violation message range) =>
    r.emitted = [] ∧ ∃ violation, r.result = .ok (some (violation, range)) ∧ violation.message = message

theorem Settles.of_silent {host : Host} {r : Run Unit} {shortfall : Option Shortfall}
    (h : Settles host r shortfall) {s : Run α} (hsilent : s.emitted = [])
    : Settles host ⟨s.calls ++ r.calls, r.result⟩ shortfall := by
  have hemitted : (⟨s.calls ++ r.calls, r.result⟩ : Run Unit).emitted = r.emitted := by
    rw [Run.emitted_append]
    rw [hsilent]
    rfl
  cases shortfall with
  | none => exact ⟨hemitted.trans h.1, h.2⟩
  | some shortfall =>
    cases shortfall with
    | failure => exact ⟨hemitted.trans h.1, h.2⟩
    | violation => exact ⟨hemitted.trans h.1, h.2⟩

theorem Finds.emitted_eq_nil {r : Run (Option (Violation × Range))} {shortfall : Option Shortfall}
    (h : Finds r shortfall)
    : r.emitted = [] := by
  cases shortfall with
  | none => exact h.1
  | some shortfall =>
    cases shortfall with
    | failure => exact h.1
    | violation => exact h.1

theorem Finds.after_evaluate {r : Run (Option (Violation × Range))} {shortfall : Option Shortfall}
    (h : Finds r shortfall) (a : Attribute) (answer : Except RunError String)
    : Finds (r.after (.evaluate a answer)) shortfall := by
  cases shortfall with
  | none => exact h
  | some shortfall =>
    cases shortfall with
    | failure => exact h
    | violation => exact h

theorem requirements_eq : requirements = .type :: methodRequirements policies := rfl

theorem Requirement.shortfall?_type_eq_none_iff {evaluate : Attribute → Except RunError String}
    {backend : Block}
    : Requirement.type.shortfall? evaluate backend = none ↔ backend.labels = ["http"] := by
  simp [Requirement.shortfall?]

theorem Requirement.shortfall?_method_eq_none_iff {evaluate : Attribute → Except RunError String}
    {backend : Block} {policy : MethodPolicy}
    : (presence policy).shortfall? evaluate backend = none ∧ (verb policy).shortfall? evaluate backend = none
        ↔
      ∃ found,
        backend.body.attributes.get? policy.key = some found ∧ evaluate found = .ok policy.verb := by
  cases hfound : backend.body.attributes.get? policy.key with
  | none => simp [Requirement.shortfall?, hfound]
  | some found =>
    cases hverb : evaluate found with
    | error e => simp [Requirement.shortfall?, hfound, hverb]
    | ok text => simp [Requirement.shortfall?, hfound, hverb]

theorem firstShortfall?_eq_none_iff {evaluate : Attribute → Except RunError String} {backend : Block}
    : firstShortfall? evaluate backend requirements = none
        ↔
      backend.labels = ["http"]
        ∧ ∀ policy ∈ policies, ∃ found,
            backend.body.attributes.get? policy.key = some found ∧ evaluate found = .ok policy.verb := by
  unfold firstShortfall?
  rw [requirements_eq]
  rw [List.findSome?_eq_none_iff]
  rw [List.forall_mem_cons]
  rw [Requirement.shortfall?_type_eq_none_iff]
  unfold methodRequirements
  rw [List.forall_mem_flatMap]
  simp only [List.forall_mem_cons, List.not_mem_nil, false_implies, implies_true, and_true]
  simp only [Requirement.shortfall?_method_eq_none_iff]

theorem firstShortfall?_congr (evaluate : Attribute → Except RunError String) {backend other : Block}
    (hlabels : backend.labels = other.labels) (hhead : backend.headRange = other.headRange)
    (hmethods : ∀ policy ∈ policies,
      backend.body.attributes.get? policy.key = other.body.attributes.get? policy.key)
    : firstShortfall? evaluate backend requirements = firstShortfall? evaluate other requirements := by
  have hlock := hmethods lockPolicy (by simp [policies])
  have hunlock := hmethods unlockPolicy (by simp [policies])
  unfold firstShortfall? requirements
  simp only [List.findSome?_cons, List.findSome?_nil, Requirement.shortfall?, hlabels, hhead, hlock, hunlock]

variable (host : Host)

theorem firstMethodViolation_finds (info : RuleInfo) (backend : Block) (policies : List MethodPolicy)
    : Finds ((firstMethodViolation backend policies).run host info)
        (firstShortfall? host.evaluate backend (methodRequirements policies)) := by
  induction policies with
  | nil => exact ⟨rfl, rfl⟩
  | cons policy policies ih =>
    unfold firstMethodViolation firstShortfall? methodRequirements
    rw [List.flatMap_cons]
    rw [List.findSome?_append]
    cases hfound : backend.body.attributes.get? policy.key with
    | none =>
      simp only [List.findSome?_cons, Requirement.shortfall?, hfound]
      exact ⟨rfl, _, rfl, rfl⟩
    | some found =>
      simp only [List.findSome?_cons, Requirement.shortfall?, hfound]
      rw [Program.run_bind]
      rw [Program.run_getString]
      unfold Run.andThen
      cases hverb : host.evaluate found with
      | error e => exact ⟨rfl, rfl⟩
      | ok verb =>
        by_cases h : verb = policy.verb
        . simp only [h, ↓reduceIte]
          exact ih.after_evaluate found (.ok policy.verb)
        . simp only [h, ↓reduceIte]
          exact ⟨rfl, _, rfl, rfl⟩

theorem firstViolation_finds (info : RuleInfo) {backend : Block} (hlabel : backend.labels.length = 1)
    : Finds ((firstViolation backend).run host info)
        (firstShortfall? host.evaluate backend requirements) := by
  obtain ⟨type, htype⟩ := List.length_eq_one_iff.1 hlabel
  rw [requirements_eq]
  unfold firstViolation firstShortfall? typeOf
  rw [List.findSome?_cons]
  by_cases h : type = requiredType
  . simp only [Requirement.shortfall?, htype, h, requiredType, List.headD_cons, ↓reduceIte]
    apply firstMethodViolation_finds
  . have : type ≠ "http" := h
    simp only [Requirement.shortfall?, htype, h, this, List.headD_cons, List.cons.injEq, and_true, ↓reduceIte]
    exact ⟨rfl, _, rfl, rfl⟩

theorem checkAll_settles (backends : List Block) (hlabels : ∀ backend ∈ backends, backend.labels.length = 1)
    : Settles host ((checkAll backends).run host rule.info)
        (backends.findSome? fun backend => firstShortfall? host.evaluate backend requirements) := by
  induction backends with
  | nil => exact ⟨rfl, rfl⟩
  | cons backend backends ih =>
    have hfinds := firstViolation_finds host rule.info (hlabels backend (by simp))
    specialize ih fun backend hmem => hlabels backend (by simp [hmem])
    unfold checkAll
    rw [Program.run_bind]
    rw [List.findSome?_cons]
    have hsilent := hfinds.emitted_eq_nil
    generalize (firstViolation backend).run host rule.info = r at hfinds hsilent
    cases hshortfall : firstShortfall? host.evaluate backend requirements with
    | none =>
      rw [hshortfall] at hfinds
      -- The search of a backend that is in order is silent, so the rest of the list decides.
      rw [Run.andThen_of_ok hfinds.2]
      exact ih.of_silent hsilent
    | some shortfall =>
      rw [hshortfall] at hfinds
      cases shortfall with
      | failure e =>
        rw [Run.andThen_of_error hfinds.2]
        exact ⟨hsilent, rfl⟩
      | violation message range =>
        obtain ⟨_, violation, hresult, rfl⟩ := hfinds
        rw [Run.andThen_of_ok hresult]
        dsimp only
        rw [Program.run_report]
        refine ⟨?_, rfl⟩
        rw [Run.emitted_append]
        rw [hsilent]
        rfl

theorem contentShortfall?_eq_findSome? (evaluate : Attribute → Except RunError String) (content : BodyContent)
    : contentShortfall? evaluate content
        =
      (backends content).findSome? fun backend => firstShortfall? evaluate backend requirements := by
  unfold contentShortfall? backends
  induction content.blocks with
  | nil => rfl
  | cons terraform blocks ih =>
    rw [List.findSome?_cons]
    rw [List.flatMap_cons]
    rw [List.findSome?_append]
    rw [ih]
    cases List.findSome? _ terraform.body.blocks <;> rfl

theorem run_rule_of_content {content : BodyContent} (h : host.content schema = .ok content)
    : rule.run host
        =
      ((checkAll (backends content)).run host rule.info).after (.content schema (.ok content)) := by
  unfold Rule.run
  change (Program.getContent schema >>= fun content => checkAll (backends content)).run host rule.info = _
  rw [Program.run_bind]
  rw [Program.run_getContent]
  rw [h]
  rfl

theorem run_rule_of_error {e : RunError} (h : host.content schema = .error e)
    : rule.run host = ⟨[.content schema (.error e)], .error e⟩ := by
  unfold Rule.run
  change (Program.getContent schema >>= fun content => checkAll (backends content)).run host rule.info = _
  rw [Program.run_bind]
  rw [Program.run_getContent]
  rw [h]
  rfl

theorem rule_settles {content : BodyContent} (h : host.content schema = .ok content)
    (hlabels : ∀ backend ∈ backends content, backend.labels.length = 1)
    : Settles host (rule.run host) (contentShortfall? host.evaluate content) := by
  rw [run_rule_of_content host h]
  rw [contentShortfall?_eq_findSome?]
  have hsettles := checkAll_settles host (backends content) hlabels
  exact hsettles.of_silent (s := ⟨[.content schema (.ok content)], .ok ()⟩) rfl

theorem labels_of_blockConforms {content : BodyContent}
    (h : ∀ block ∈ content.blocks, BlockConforms schema block)
    : ∀ backend ∈ backends content, backend.labels.length = 1 := by
  intro backend hbackend
  obtain ⟨terraform, hterraform, hmem⟩ := List.mem_flatMap.1 hbackend
  obtain ⟨_, hinner⟩ := (h terraform hterraform).of_ofBlock rfl
  exact ((hinner.blockConforms hmem).of_ofBlock rfl).1

/--
On every host whose content has the right shape the rule ends as the first shortfall demands.
-/
theorem check_settles {content : BodyContent} (h : host.content schema = .ok content)
    (hconforms : Conforms schema content)
    : Settles host (rule.run host) (contentShortfall? host.evaluate content) :=
  rule_settles host h (labels_of_blockConforms fun _ => hconforms.blockConforms)

def secondOfOtherType : SourceFile where
  index := .ofSource "main.tf" <|
    "terraform \x7b\n  backend \"http\" \x7b\n    lock_method = \"POST\"\n    unlock_method = \"DELETE\"\n  \x7d\n\x7d\n"
      ++ "terraform \x7b\n  backend \"s3\" \x7b\n  \x7d\n\x7d\n"
  body := [
    .block "terraform" ⟨0, 9⟩ [] [
      .block "backend" ⟨14, 21⟩ [⟨"http", ⟨22, 28⟩⟩] [
        .attribute "lock_method" (.string "POST") ⟨35, 55⟩ ⟨49, 55⟩,
        .attribute "unlock_method" (.string "DELETE") ⟨60, 84⟩ ⟨76, 84⟩]],
    .block "terraform" ⟨91, 100⟩ [] [
      .block "backend" ⟨105, 112⟩ [⟨"s3", ⟨113, 117⟩⟩] []]]

/--
A host that evaluates nothing but plain strings and refuses every issue.
-/
def refusingHost (file : SourceFile) : Host where
  content schema := extract file.index schema file.body
  evaluate a :=
    match a.value with
    | .string text => .ok text
    | _ => .error (.unsuitable a.valueRange .null)
  accept issue := .error (.missingAttribute issue.message issue.range)

set_option maxRecDepth 2000 in
theorem check_settles_second_block
    : (rule.run (refusingHost secondOfOtherType)).emitted
          = [⟨"terraform_backend_type", .error, "backend type must be 'http', but found 's3'",
              "main.tf", ⟨8, 3, 105⟩, ⟨8, 15, 117⟩⟩]
        ∧ (rule.run (refusingHost secondOfOtherType)).result
            = .error (.missingAttribute "backend type must be 'http', but found 's3'"
                ⟨"main.tf", ⟨8, 3, 105⟩, ⟨8, 15, 117⟩⟩) := by
  have hcontent : (refusingHost secondOfOtherType).content schema
      = .ok (select secondOfOtherType.index schema secondOfOtherType.body) := by
    rfl
  have hconforms : Conforms schema (select secondOfOtherType.index schema secondOfOtherType.body) := by
    refine select_conforms ?_ (?_ : missingFaults _ _ .nowhere = [])
    . rfl
    . rfl
  have hshortfall : contentShortfall? (refusingHost secondOfOtherType).evaluate
        (select secondOfOtherType.index schema secondOfOtherType.body)
      = some (.violation "backend type must be 'http', but found 's3'"
          ⟨"main.tf", ⟨8, 3, 105⟩, ⟨8, 15, 117⟩⟩) := by
    with_unfolding_all rfl
  have hsettles := check_settles (refusingHost secondOfOtherType) hcontent hconforms
  rw [hshortfall] at hsettles
  exact hsettles

end BackendPolicy.BackendType
