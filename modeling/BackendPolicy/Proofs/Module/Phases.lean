import BackendPolicy.Proofs.Module.Failure
import BackendPolicy.Proofs.Module.Verdict

/-!
This module contains what is wrong with a module for a check, by the phases of the check: the labels of all
variables, their defaults, the labels of all backends and what the methods of backends evaluate to. In each
phase the faults are met in the order of their places.
-/

namespace BackendPolicy

inductive Attribute.Fails (a : Attribute) (scope : Scope) : RunError → Prop where
  | evaluation {e : EvalError} (heval : a.value.eval scope = .error e)
      : Fails a scope (.evaluation a.valueRange e)
  | unsuitable {v : Value} {reason : Unsuitable} (heval : a.value.eval scope = .ok v)
      (htext : v.asString = .error reason) : Fails a scope (.unsuitable a.valueRange reason)

theorem Attribute.eval_eq_error_iff {a : Attribute} {scope : Scope} {e : RunError}
    : a.eval scope = .error e
        ↔
      ∃ error, a.value.eval scope = .error error ∧ e = .evaluation a.valueRange error := by
  unfold eval
  cases a.value.eval scope with
  | ok => simp
  | error => simp [eq_comm]

theorem Attribute.evalString_eq_error_iff {a : Attribute} {scope : Scope} {e : RunError}
    : a.evalString scope = .error e ↔ a.Fails scope e := by
  unfold evalString eval
  constructor
  . intro h
    cases heval : a.value.eval scope with
    | error error =>
      rw [heval] at h
      cases h
      exact .evaluation heval
    | ok v =>
      rw [heval] at h
      cases htext : v.asString with
      | ok => simp [bind, Except.bind, pure, Except.pure, htext] at h
      | error reason =>
        simp [bind, Except.bind, htext, throw, throwThe, MonadExceptOf.throw] at h
        subst h
        exact .unsuitable heval htext
  . intro h
    cases h with
    | evaluation heval => simp [heval, bind, Except.bind]
    | unsuitable heval htext => simp [heval, bind, Except.bind, htext, throw, throwThe, MonadExceptOf.throw]

namespace Module

/--
Whether a module has a block at the top of a file. Its place is the number of the file and that of the block.
-/
inductive BlockAt (m : Module) (kind : String) : List Nat → LineIndex → Span → List Label → Body → Prop where
  | intro {i j : Nat} {file : SourceFile} {kindSpan : Span} {labels : List Label} {body : Body}
      (hfile : m.files[i]? = some file)
      (hs : file.body[j]? = some (.block kind kindSpan labels body))
      : BlockAt m kind [i, j] file.index kindSpan labels body

/--
Whether a module has a backend in a `terraform` block. Its place is that of the block and its number in it.
-/
inductive BackendAt (m : Module) : List Nat → LineIndex → Span → List Label → Body → Prop where
  | intro {place : List Nat} {k : Nat} {index : LineIndex} {outerSpan kindSpan : Span}
      {outerLabels labels : List Label} {outer body : Body}
      (houter : m.BlockAt "terraform" place index outerSpan outerLabels outer)
      (hs : outer[k]? = some (.block "backend" kindSpan labels body))
      : BackendAt m (place ++ [k]) index kindSpan labels body

inductive VariableLabelFaultAt (m : Module) : List Nat → RunError → Prop where
  | intro {place : List Nat} {index : LineIndex} {kindSpan : Span} {labels : List Label} {body : Body}
      (hblock : m.BlockAt "variable" place index kindSpan labels body)
      (hcount : labels.length ≠ 1)
      : VariableLabelFaultAt m place
          (.labelCount "variable" ["name"] labels.length (headOf index kindSpan labels))

inductive DefaultFaultAt (m : Module) : List Nat → RunError → Prop where
  | intro {place : List Nat} {index : LineIndex} {kindSpan : Span} {labels : List Label} {body : Body}
      {found : Attribute} {e : EvalError}
      (hblock : m.BlockAt "variable" place index kindSpan labels body)
      (hdefault : IsLastAttribute index body "default" found)
      (heval : found.value.eval [] = .error e)
      : DefaultFaultAt m place (.evaluation found.valueRange e)

inductive BackendLabelFaultAt (m : Module) : List Nat → RunError → Prop where
  | terraform {place : List Nat} {index : LineIndex} {kindSpan : Span} {labels : List Label} {body : Body}
      (hblock : m.BlockAt "terraform" place index kindSpan labels body)
      (hcount : labels ≠ [])
      : BackendLabelFaultAt m place (.labelCount "terraform" [] labels.length (headOf index kindSpan labels))
  | backend {place : List Nat} {index : LineIndex} {kindSpan : Span} {labels : List Label} {body : Body}
      (hbackend : m.BackendAt place index kindSpan labels body)
      (hcount : labels.length ≠ 1)
      : BackendLabelFaultAt m place
          (.labelCount "backend" ["type"] labels.length (headOf index kindSpan labels))

/--
Whether a backend of the right type cannot be judged, because a method fails that is evaluated: the one to
lock, or the one to unlock behind a right one to lock.
-/
inductive MethodFails (index : LineIndex) (scope : Scope) (labels : List Label) (body : Body)
    : RunError → Prop where
  | lock {label : Label} {found : Attribute} {e : RunError}
      (hlabels : labels = [label]) (htype : label.text = "http")
      (hlock : IsLastAttribute index body "lock_method" found)
      (hfails : found.Fails scope e)
      : MethodFails index scope labels body e
  | unlock {label : Label} {found : Attribute} {e : RunError}
      (hlabels : labels = [label]) (htype : label.text = "http")
      (hlock : EvaluatesTo index body "lock_method" scope "POST")
      (hunlock : IsLastAttribute index body "unlock_method" found)
      (hfails : found.Fails scope e)
      : MethodFails index scope labels body e

/--
A method that fails in the first backend that does not comply.
-/
inductive MethodFaultAt (m : Module) (scope : Scope) : List Nat → RunError → Prop where
  | intro {place : List Nat} {index : LineIndex} {kindSpan : Span} {labels : List Label} {body : Body}
      {e : RunError}
      (hbackend : m.BackendAt place index kindSpan labels body)
      (hfails : MethodFails index scope labels body e)
      (hbefore : ∀ other index' kindSpan' labels' body', m.BackendAt other index' kindSpan' labels' body'
        → other < place → BackendComplies index' scope labels' body')
      : MethodFaultAt m scope place e

variable (m : Module)

theorem structures_inOrder {f : LineIndex → Structure → List α}
    {At : LineIndex → Structure → List Nat → α → Prop}
    (h : ∀ index s, InOrder (At index s) (f index s))
    : InOrder
        (fun place a =>
          ∃ i j file s rest,
            m.files[i]? = some file ∧ file.body[j]? = some s ∧ place = i :: j :: rest ∧ At file.index s rest a)
        (m.files.flatMap fun file => file.body.flatMap (f file.index)) := by
  have hfiles := InOrder.flatMap m.files fun file _ => InOrder.flatMap file.body fun s _ => h file.index s
  apply hfiles.congr
  intro place a
  constructor
  . rintro ⟨i, file, _, hfile, rfl, j, s, rest, hs, rfl, ha⟩
    exact ⟨i, j, file, s, rest, hfile, hs, rfl, ha⟩
  . rintro ⟨i, j, file, s, rest, hfile, hs, rfl, ha⟩
    exact ⟨i, file, _, hfile, rfl, j, s, rest, hs, rfl, ha⟩

end Module

theorem structureFaults_ofBlock_inOrder (index : LineIndex) (entry : BlockSchema) {names : List String}
    (hbody : entry.body = some (.ofAttributes names)) (s : Structure)
    : InOrder
        (fun place e =>
          ∃ kindSpan labels body,
            s = .block entry.kind kindSpan labels body
              ∧ labels.length ≠ entry.labelNames.length
              ∧ place = []
              ∧ e = .labelCount entry.kind entry.labelNames labels.length (headOf index kindSpan labels))
        (structureFaults index (.ofBlock entry) s) := by
  rcases s with _ | ⟨kind, kindSpan, labels, body⟩
  . exact .nil (by simp)
  . rw [structureFaults_ofBlock_ofAttributes index entry hbody]
    split
    . next h =>
      apply (labelFaults_inOrder index entry kindSpan labels).congr
      simp [h]
    . next h => exact .nil (by simp [h])

namespace Module

variable (m : Module)

theorem variableLabelFaults_inOrder : InOrder m.VariableLabelFaultAt (m.fileFaults variableSchema) := by
  unfold fileFaults
  simp only [faults_eq_flatMap]
  have hall := m.structures_inOrder fun index s =>
    structureFaults_ofBlock_inOrder index variableEntry rfl s
  apply hall.congr
  intro place e
  constructor
  . rintro ⟨i, j, file, _, _, hfile, hs, rfl, kindSpan, labels, body, rfl, hcount, rfl, rfl⟩
    exact .intro (.intro hfile hs) hcount
  . rintro ⟨⟨hfile, hs⟩, hcount⟩
    exact ⟨_, _, _, _, [], hfile, hs, rfl, _, _, _, rfl, hcount, rfl, rfl⟩

theorem defaultFaults_inOrder : InOrder m.DefaultFaultAt (failuresOf m.declarations) := by
  have hdeclarations : m.declarations
      = m.files.flatMap fun file => file.body.flatMap fun s => (declaration? file.index s).toList := by
    unfold declarations
    simp only [List.filterMap_eq_flatMap_toList]
  rw [hdeclarations]
  have hall := m.structures_inOrder fun index s => InOrder.option (declaration? index s)
  apply (hall.filterMap _).congr
  intro place e
  constructor
  . rintro ⟨⟨name, outcome⟩, ⟨i, j, file, s, _, hfile, hs, rfl, rfl, hdeclaration⟩, he⟩
    obtain ⟨kindSpan, labels, body, rfl, found, hfound, heq⟩ := declaration?_eq_some_iff.1 hdeclaration
    obtain ⟨_, rfl⟩ := Prod.mk.inj heq
    cases heval : found.eval [] with
    | ok v => simp [heval] at he
    | error e' =>
      simp only [heval, Option.some.injEq] at he
      subst he
      obtain ⟨error, herror, rfl⟩ := Attribute.eval_eq_error_iff.1 heval
      exact .intro (.intro hfile hs) hfound herror
  . intro h
    cases h with
    | @intro index kindSpan labels body found error hblock hdefault heval =>
      obtain ⟨hfile, hs⟩ := hblock
      have hdeclaration := declaration?_eq_some_iff.2 ⟨kindSpan, labels, body, rfl, found, hdefault, rfl⟩
      refine ⟨_, ⟨_, _, _, _, [], hfile, hs, rfl, rfl, hdeclaration⟩, ?_⟩
      simp only [Attribute.eval_eq_error_iff.2 ⟨_, heval, rfl⟩]

end Module

namespace BackendType

theorem backendFaultsOf_inOrder (index : LineIndex) (s : Structure)
    : InOrder
        (fun place e =>
          ∃ kindSpan labels body,
            s = .block "terraform" kindSpan labels body
              ∧ ((labels ≠ []
                    ∧ place = []
                    ∧ e = .labelCount "terraform" [] labels.length (headOf index kindSpan labels))
                  ∨ ∃ k kindSpan labels inner,
                      body[k]? = some (.block "backend" kindSpan labels inner)
                        ∧ labels.length ≠ 1
                        ∧ place = [k]
                        ∧ e = .labelCount "backend" ["type"] labels.length (headOf index kindSpan labels)))
        (backendFaultsOf index s) := by
  rcases s with _ | ⟨kind, kindSpan, labels, body⟩
  . exact .nil (by simp)
  . unfold backendFaultsOf
    dsimp only
    split
    . next h =>
      have houter := labelFaults_inOrder index terraformEntry kindSpan labels
      have hinner := InOrder.flatMap body fun s _ => structureFaults_ofBlock_inOrder index backendEntry rfl s
      apply (houter.append hinner ?_).congr
      . intro place e
        constructor
        . rintro (⟨hcount, rfl, rfl⟩ | ⟨k, _, _, hs, rfl, kindSpan', labels', inner, rfl, hcount, rfl, rfl⟩)
          . exact ⟨kindSpan, labels, body, by rw [h], .inl ⟨mt List.length_eq_zero_iff.2 hcount, rfl, rfl⟩⟩
          . exact ⟨kindSpan, labels, body, by rw [h], .inr ⟨k, _, _, _, hs, hcount, rfl, rfl⟩⟩
        . rintro ⟨_, _, _, heq, ⟨hcount, rfl, rfl⟩ | ⟨k, _, _, _, hs, hcount, rfl, rfl⟩⟩
          . cases heq
            exact .inl ⟨mt List.length_eq_zero_iff.1 hcount, rfl, rfl⟩
          . cases heq
            exact .inr ⟨k, _, [], hs, rfl, _, _, _, rfl, hcount, rfl, rfl⟩
      . rintro _ _ _ _ ⟨_, rfl, _⟩ ⟨k, _, _, _, rfl, _⟩
        exact List.nil_lt_cons _ _
    . next h => exact .nil (by simp [h])

theorem backendsOf_inOrder (index : LineIndex) (s : Structure)
    : InOrder
        (fun place backend =>
          ∃ kindSpan labels body,
            s = .block "terraform" kindSpan labels body
              ∧ ∃ k kindSpan labels inner,
                  body[k]? = some (.block "backend" kindSpan labels inner)
                    ∧ place = [k]
                    ∧ backend = backendOf index kindSpan labels inner)
        (backendsOf index s) := by
  rcases s with _ | ⟨kind, kindSpan, labels, body⟩
  . exact .nil (by simp)
  . unfold backendsOf
    dsimp only
    split
    . next h =>
      apply ((InOrder.members body).filterMap _).congr
      intro place backend
      simp only [selectedBlock?_backendEntry_eq_some_iff]
      constructor
      . rintro ⟨_, ⟨k, hs, rfl⟩, _, _, _, rfl, rfl⟩
        exact ⟨kindSpan, labels, body, by rw [h], k, _, _, _, hs, rfl, rfl⟩
      . rintro ⟨_, _, _, heq, k, _, _, _, hs, rfl, rfl⟩
        cases heq
        exact ⟨_, ⟨k, hs, rfl⟩, _, _, _, rfl, rfl⟩
    . next h => exact .nil (by simp [h])

def Shortfall.failure? : Shortfall → Option RunError
  | failure e => some e
  | violation _ _ => none

def issuesOf : Option Shortfall → List Issue
  | some (.violation message range) => [⟨"terraform_backend_type", .error, message, range⟩]
  | _ => []

theorem reported_eq_orFirst (shortfall? : Option Shortfall)
    : reported shortfall?
        =
      orFirst (shortfall?.toList.filterMap Shortfall.failure?) (issuesOf shortfall?) := by
  rcases shortfall? with _ | _ | _ <;> rfl

section

variable {evaluate : Attribute → Except RunError String} {backend : Block} {e : RunError}

theorem firstShortfall?_methods_eq_failure_iff {policy : MethodPolicy} {policies : List MethodPolicy}
    : firstShortfall? evaluate backend (methodRequirements (policy :: policies)) = some (.failure e)
        ↔
      ∃ found,
        backend.body.attributes.get? policy.key = some found
          ∧ (evaluate found = .error e
              ∨ evaluate found = .ok policy.verb
                ∧ firstShortfall? evaluate backend (methodRequirements policies) = some (.failure e)) := by
  unfold firstShortfall? methodRequirements
  rw [List.flatMap_cons]
  cases hfound : backend.body.attributes.get? policy.key with
  | none => simp [Requirement.shortfall?, hfound]
  | some found =>
    cases hverb : evaluate found with
    | error => simp [Requirement.shortfall?, hfound, hverb]
    | ok text =>
      by_cases htext : text = policy.verb
      . simp [Requirement.shortfall?, hfound, hverb, htext]
      . simp [Requirement.shortfall?, hfound, hverb, htext]

theorem firstShortfall?_eq_failure_iff
    : firstShortfall? evaluate backend requirements = some (.failure e)
        ↔
      backend.labels = ["http"]
        ∧ firstShortfall? evaluate backend (methodRequirements policies) = some (.failure e) := by
  rw [requirements_eq]
  unfold firstShortfall?
  rw [List.findSome?_cons]
  by_cases hlabels : backend.labels = ["http"]
  . simp [Requirement.shortfall?, hlabels]
  . simp [Requirement.shortfall?, hlabels]

end

end BackendType

namespace Module

open BackendType

variable (m : Module)

theorem backendLabelFaults_inOrder : InOrder m.BackendLabelFaultAt m.backendFaults := by
  have hall := m.structures_inOrder backendFaultsOf_inOrder
  apply hall.congr
  intro place e
  constructor
  . rintro ⟨i, j, file, _, _, hfile, hs, rfl, kindSpan, labels, body, rfl, hfault⟩
    obtain ⟨hcount, rfl, rfl⟩ | ⟨k, _, _, _, hinner, hcount, rfl, rfl⟩ := hfault
    . exact .terraform (.intro hfile hs) hcount
    . exact .backend (.intro (.intro hfile hs) hinner) hcount
  . intro h
    cases h with
    | terraform hblock hcount =>
      obtain ⟨hfile, hs⟩ := hblock
      exact ⟨_, _, _, _, [], hfile, hs, rfl, _, _, _, rfl, .inl ⟨hcount, rfl, rfl⟩⟩
    | backend hbackend hcount =>
      obtain ⟨⟨hfile, hs⟩, hinner⟩ := hbackend
      exact ⟨_, _, _, _, _, hfile, hs, rfl, _, _, _, rfl, .inr ⟨_, _, _, _, hinner, hcount, rfl, rfl⟩⟩

theorem backends_inOrder
    : InOrder
        (fun place backend =>
          ∃ index kindSpan labels body,
            m.BackendAt place index kindSpan labels body ∧ backend = backendOf index kindSpan labels body)
        m.backends := by
  have hall := m.structures_inOrder backendsOf_inOrder
  apply hall.congr
  intro place backend
  constructor
  . rintro ⟨i, j, file, _, _, hfile, hs, rfl, _, _, _, rfl, k, _, _, _, hinner, rfl, rfl⟩
    exact ⟨_, _, _, _, .intro (.intro hfile hs) hinner, rfl⟩
  . rintro ⟨_, _, _, _, ⟨⟨hfile, hs⟩, hinner⟩, rfl⟩
    exact ⟨_, _, _, _, _, hfile, hs, rfl, _, _, _, rfl, _, _, _, _, hinner, rfl, rfl⟩

theorem firstShortfall?_backendOf_eq_failure_iff {index : LineIndex} {scope : Scope} {kindSpan : Span}
    {labels : List Label} {body : Body} {e : RunError}
    : firstShortfall? (fun a => a.evalString scope) (backendOf index kindSpan labels body) requirements
          = some (.failure e)
        ↔
      MethodFails index scope labels body e := by
  have hget (name : String) (hname : name ∈ ["address", "lock_method", "unlock_method"])
      : (selectedBody index backendEntry body).attributes.get? name = attributeOf? index name body :=
    get?_selectedBody_ofAttributes index rfl hname body
  rw [firstShortfall?_eq_failure_iff]
  unfold policies
  rw [firstShortfall?_methods_eq_failure_iff]
  simp only [firstShortfall?_methods_eq_failure_iff]
  dsimp only [backendOf, lockPolicy, unlockPolicy]
  rw [hget "lock_method" (by simp)]
  rw [hget "unlock_method" (by simp)]
  rw [List.map_eq_singleton_iff]
  simp only [attributeOf?_eq_some_iff, Attribute.evalString_eq_ok_iff, Attribute.evalString_eq_error_iff]
  constructor
  . rintro ⟨⟨label, hlabels, htype⟩, found, hlock, hfails | ⟨⟨v, heval, htext⟩, other, hunlock, hrest⟩⟩
    . exact .lock hlabels htype hlock hfails
    . obtain hfails | ⟨_, hnone⟩ := hrest
      . exact .unlock hlabels htype ⟨found, v, hlock, heval, htext⟩ hunlock hfails
      . contradiction
  . intro h
    cases h with
    | lock hlabels htype hlock hfails => exact ⟨⟨_, hlabels, htype⟩, _, hlock, .inl hfails⟩
    | unlock hlabels htype hlock hunlock hfails =>
      obtain ⟨found, v, hlock, heval, htext⟩ := hlock
      exact ⟨⟨_, hlabels, htype⟩, found, hlock, .inr ⟨⟨v, heval, htext⟩, _, hunlock, .inl hfails⟩⟩

def methodFaults (m : Module) (scope : Scope) : List RunError :=
  let shortfall? := m.backends.findSome? fun backend =>
    firstShortfall? (fun a => a.evalString scope) backend requirements
  shortfall?.toList.filterMap Shortfall.failure?

theorem methodFaults_inOrder (scope : Scope) : InOrder (m.MethodFaultAt scope) (m.methodFaults scope) := by
  have hall := (m.backends_inOrder.findSome? fun backend =>
    firstShortfall? (fun a => a.evalString scope) backend requirements).filterMap Shortfall.failure?
  apply hall.congr
  intro place e
  constructor
  . rintro ⟨shortfall, ⟨_, ⟨index, kindSpan, labels, body, hbackend, rfl⟩, hfound, hbefore⟩, he⟩
    cases shortfall with
    | violation => contradiction
    | failure e' =>
      obtain rfl : e' = e := Option.some.inj he
      refine .intro hbackend (firstShortfall?_backendOf_eq_failure_iff.1 hfound) ?_
      intro other index' kindSpan' labels' body' hother hlt
      rw [← firstShortfall?_backendOf_eq_none_iff]
      exact hbefore other _ ⟨_, _, _, _, hother, rfl⟩ hlt
  . rintro ⟨hbackend, hfails, hbefore⟩
    refine ⟨.failure e, ⟨_, ⟨_, _, _, _, hbackend, rfl⟩, ?_, ?_⟩, rfl⟩
    . exact firstShortfall?_backendOf_eq_failure_iff.2 hfails
    . rintro other _ ⟨index', kindSpan', labels', body', hother, rfl⟩ hlt
      exact firstShortfall?_backendOf_eq_none_iff.2 (hbefore other _ _ _ _ hother hlt)

theorem policyCheck_eq_orFirst (vars : Variables)
    : ∃ issues, m.policyCheck vars = orFirst (m.backendFaults ++ m.methodFaults vars.scope) issues := by
  unfold policyCheck
  simp only [reported_eq_orFirst]
  rw [orFirst_bind_orFirst]
  exact ⟨_, rfl⟩

/--
What is wrong with a module for the rule, which counts unless the configuration switches the rule off.
-/
def policyFaults (m : Module) (config : Config) (given : List (String × Value)) : List RunError :=
  if config.ruleEnabled? "terraform_backend_type" = some false then
    []
  else
    m.backendFaults ++ m.methodFaults (m.finalVariables config given).scope

theorem check_eq_orFirst {rules : Ruleset} {config : Config}
    (hrules : Ruleset.builtin.applyConfig config = .ok rules)
    (given : List (String × Value))
    : ∃ issues,
        m.check rules config given = orFirst (m.declarationFaults ++ m.policyFaults config given) issues := by
  unfold policyFaults
  by_cases henabled : config.ruleEnabled? "terraform_backend_type" = some false
  . rw [if_pos henabled]
    have hrule := Ruleset.enabled_of_applyConfig hrules
    rw [henabled] at hrule
    rw [m.check_eq_of_disabled config given hrule]
    refine ⟨[], ?_⟩
    cases m.declarationFaults <;> rfl
  . rw [if_neg henabled]
    rw [m.check_eq_policyCheck config given (Ruleset.enabled_eq_rule hrules henabled)]
    obtain ⟨issues, hpolicy⟩ := m.policyCheck_eq_orFirst (m.finalVariables config given)
    refine ⟨issues, ?_⟩
    cases m.declarationFaults with
    | cons => rfl
    | nil => exact hpolicy

end Module

end BackendPolicy
