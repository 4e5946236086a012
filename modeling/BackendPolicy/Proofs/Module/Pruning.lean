import BackendPolicy.Proofs.Body.Spans
import BackendPolicy.Proofs.Module.Backends
import BackendPolicy.Proofs.Module.Sources
import BackendPolicy.Proofs.Source.LineIndex

/-!
This module contains pruning, which cuts a module down to what the policy and the variables are about. Pruning
changes no outcome, so modules that are equal after it have the same variables and the same verdicts.
-/

namespace BackendPolicy

def keepsAttribute (names : List String) : Structure → Bool
  | .attribute key _ _ _ => key ∈ names
  | .block _ _ _ _ => false

def keepAttributes (names : List String) (body : Body) : Body :=
  body.filter (keepsAttribute names)

/--
Keep nothing of a `terraform` block but the backends in it, and of those the methods.
-/
def pruneInner? : Structure → Option Structure
  | .attribute _ _ _ _ => none
  | .block kind kindSpan labels body =>
    if kind = "backend" then
      some (.block kind kindSpan labels (keepAttributes ["lock_method", "unlock_method"] body))
    else
      none

/--
Keep nothing at the top of a file but `terraform` blocks and variables, and of the latter the default.
-/
def pruneStructure? : Structure → Option Structure
  | .attribute _ _ _ _ => none
  | .block kind kindSpan labels body =>
    if kind = "terraform" then
      some (.block kind kindSpan labels (body.filterMap pruneInner?))
    else if kind = "variable" then
      some (.block kind kindSpan labels (keepAttributes ["default"] body))
    else
      none

def SourceFile.prune (file : SourceFile) : SourceFile :=
  ⟨file.index, file.body.filterMap pruneStructure?⟩

def Module.prune (m : Module) : Module :=
  ⟨m.files.map SourceFile.prune⟩

variable {index : LineIndex}

theorem attributeOf?_keepAttributes {names : List String} {name : String} (h : name ∈ names) (body : Body)
    : attributeOf? index name (keepAttributes names body) = attributeOf? index name body := by
  unfold attributeOf? keepAttributes
  rw [List.filterMap_filter]
  congr 2
  funext s
  rcases s with ⟨key, value, span, valueSpan⟩ | _
  . by_cases hkey : key = name
    . simp [keepsAttribute, structureAttribute?, hkey, h]
    . simp [structureAttribute?, hkey]
  . rfl

theorem flatMap_filterMap_of_forall {α β γ : Type} {f : β → List γ} {f' : α → List γ}
    {prune? : α → Option β}
    (h : ∀ s, (prune? s).toList.flatMap f = f' s) (l : List α)
    : (l.filterMap prune?).flatMap f = l.flatMap f' := by
  induction l with
  | nil => rfl
  | cons s l ih =>
    rw [List.flatMap_cons]
    rw [← ih]
    rw [← h]
    rw [List.filterMap_cons]
    cases prune? s with
    | none => rfl
    | some => simp

theorem declaration?_pruneStructure? (s : Structure)
    : (pruneStructure? s).bind (Module.declaration? index) = Module.declaration? index s := by
  rcases s with _ | ⟨kind, kindSpan, labels, body⟩
  . rfl
  . dsimp only [pruneStructure?]
    split
    . next h => simp [Module.declaration?, h]
    . next h =>
      split
      . next h =>
        subst h
        dsimp only [Option.bind_some, Module.declaration?]
        rw [attributeOf?_keepAttributes (by simp)]
      . next h => simp [Module.declaration?, h]

theorem structureFaults_variableSchema_pruneStructure? (s : Structure)
    : (pruneStructure? s).toList.flatMap (structureFaults index Module.variableSchema)
        =
      structureFaults index Module.variableSchema s := by
  rcases s with _ | ⟨kind, kindSpan, labels, body⟩
  . rfl
  . have hfaults := structureFaults_ofBlock_ofAttributes index Module.variableEntry rfl kind kindSpan labels
    rw [Module.variableSchema_eq_ofBlock]
    dsimp only [pruneStructure?]
    split
    . simp [hfaults]
    . next h =>
      split
      . simp [hfaults]
      . next h' =>
        have : kind ≠ Module.variableEntry.kind := h'
        simp [hfaults, this]

namespace BackendType

theorem structureFaults_pruneInner? (index : LineIndex) (s : Structure)
    : (pruneInner? s).toList.flatMap (structureFaults index (.ofBlock backendEntry))
        =
      structureFaults index (.ofBlock backendEntry) s := by
  rcases s with _ | ⟨kind, kindSpan, labels, body⟩
  . rfl
  . have hfaults := structureFaults_ofBlock_ofAttributes index backendEntry rfl kind kindSpan labels
    dsimp only [pruneInner?]
    split
    . simp [hfaults]
    . next h =>
      have : kind ≠ backendEntry.kind := h
      simp [hfaults, this]

theorem backendFaultsOf_pruneStructure? (s : Structure)
    : (pruneStructure? s).toList.flatMap (backendFaultsOf index) = backendFaultsOf index s := by
  rcases s with _ | ⟨kind, kindSpan, labels, body⟩
  . rfl
  . dsimp only [pruneStructure?]
    split
    . next h =>
      have hinner := flatMap_filterMap_of_forall (structureFaults_pruneInner? index) body
      simp [backendFaultsOf, h, hinner]
    . next h =>
      split
      . simp [backendFaultsOf, h]
      . simp [backendFaultsOf, h]

variable (evaluate : Attribute → Except RunError String)

theorem firstShortfall?_backendOf_keepAttributes (kindSpan : Span) (labels : List Label) (body : Body)
    : firstShortfall? evaluate
          (backendOf index kindSpan labels (keepAttributes ["lock_method", "unlock_method"] body)) requirements
        =
      firstShortfall? evaluate (backendOf index kindSpan labels body) requirements := by
  apply firstShortfall?_congr
  . rfl
  . rfl
  . intro policy hpolicy
    have hkey : policy.key ∈ ["lock_method", "unlock_method"] := by
      simp only [policies, List.mem_cons, List.not_mem_nil, or_false] at hpolicy
      obtain rfl | rfl := hpolicy
      . simp [lockPolicy]
      . simp [unlockPolicy]
    have hselected : policy.key ∈ ["address", "lock_method", "unlock_method"] := by simp [hkey]
    dsimp only [backendOf]
    rw [get?_selectedBody_ofAttributes index rfl hselected]
    rw [get?_selectedBody_ofAttributes index rfl hselected]
    exact attributeOf?_keepAttributes hkey body

theorem shortfalls_pruneInner? (s : Structure)
    : ((pruneInner? s).bind (selectedBlock? index (.ofBlock backendEntry))).map
          (firstShortfall? evaluate · requirements)
        =
      (selectedBlock? index (.ofBlock backendEntry) s).map (firstShortfall? evaluate · requirements) := by
  rcases s with _ | ⟨kind, kindSpan, labels, body⟩
  . rfl
  . dsimp only [pruneInner?]
    split
    . next h =>
      subst h
      rw [Option.bind_some]
      rw [selectedBlock?_backend]
      rw [selectedBlock?_backend]
      simp only [Option.map_some]
      rw [firstShortfall?_backendOf_keepAttributes]
    . next h =>
      have : kind ≠ backendEntry.kind := h
      simp [selectedBlock?_ofBlock, this]

theorem shortfalls_pruneStructure? (s : Structure)
    : ((pruneStructure? s).toList.flatMap fun s =>
          (backendsOf index s).map (firstShortfall? evaluate · requirements))
        =
      (backendsOf index s).map (firstShortfall? evaluate · requirements) := by
  rcases s with _ | ⟨kind, kindSpan, labels, body⟩
  . rfl
  . dsimp only [pruneStructure?]
    split
    . next h =>
      simp only [backendsOf, h, ↓reduceIte, Option.toList_some, List.flatMap_singleton]
      rw [List.filterMap_filterMap]
      rw [List.map_filterMap]
      rw [List.map_filterMap]
      simp only [shortfalls_pruneInner?]
    . next h =>
      split
      . simp [backendsOf, h]
      . simp [backendsOf, h]

end BackendType

namespace Module

open BackendType

variable (m : Module)

theorem declarations_prune : m.prune.declarations = m.declarations := by
  unfold declarations prune
  rw [List.flatMap_map]
  congr 1
  funext file
  dsimp only [SourceFile.prune]
  rw [List.filterMap_filterMap]
  simp only [declaration?_pruneStructure?]

theorem fileFaults_variableSchema_prune : m.prune.fileFaults variableSchema = m.fileFaults variableSchema := by
  unfold fileFaults prune
  rw [List.flatMap_map]
  congr 1
  funext file
  dsimp only [SourceFile.prune]
  rw [faults_eq_flatMap]
  rw [faults_eq_flatMap]
  apply flatMap_filterMap_of_forall
  apply structureFaults_variableSchema_pruneStructure?

theorem backendFaults_prune : m.prune.backendFaults = m.backendFaults := by
  unfold backendFaults prune
  rw [List.flatMap_map]
  congr 1
  funext file
  apply flatMap_filterMap_of_forall
  apply backendFaultsOf_pruneStructure?

theorem shortfalls_prune (evaluate : Attribute → Except RunError String)
    : m.prune.backends.map (firstShortfall? evaluate · requirements)
        =
      m.backends.map (firstShortfall? evaluate · requirements) := by
  unfold backends prune
  rw [List.flatMap_map]
  rw [List.map_flatMap]
  rw [List.map_flatMap]
  congr 1
  funext file
  rw [List.map_flatMap]
  rw [List.map_flatMap]
  apply flatMap_filterMap_of_forall
  apply shortfalls_pruneStructure?

theorem declarationFaults_prune : m.prune.declarationFaults = m.declarationFaults := by
  unfold declarationFaults
  rw [fileFaults_variableSchema_prune]
  rw [declarations_prune]

theorem declared_prune : m.prune.declared = m.declared := by
  unfold declared
  rw [declarations_prune]

theorem defaults_prune : m.prune.defaults = m.defaults := by
  rw [defaults_eq_orFirst]
  rw [defaults_eq_orFirst]
  rw [declarationFaults_prune]
  rw [declared_prune]

theorem policyCheck_prune (vars : Variables) : m.prune.policyCheck vars = m.policyCheck vars := by
  -- Pruned backends have lost their address, so they are not those of the module. Their shortfalls are.
  have hfind (n : Module)
      : n.policyCheck vars
          =
        orFirst n.backendFaults (n.backends.map (firstShortfall? (·.evalString vars.scope) · requirements))
          >>= fun shortfalls => reported (shortfalls.findSome? id) := by
    unfold policyCheck
    cases n.backendFaults with
    | cons => rfl
    | nil =>
      dsimp only [orFirst_nil, bind, Except.bind]
      rw [List.findSome?_map]
      rfl
  rw [hfind]
  rw [hfind]
  rw [backendFaults_prune]
  rw [shortfalls_prune]

theorem check_prune {rules : Ruleset} {config : Config} (hrules : Ruleset.builtin.applyConfig config = .ok rules)
    (given : List (String × Value))
    : m.prune.check rules config given = m.check rules config given := by
  have henabled := Ruleset.enabled_of_applyConfig hrules
  have hvars : m.prune.finalVariables config given = m.finalVariables config given := by
    unfold finalVariables
    rw [declared_prune]
  split at henabled
  . rw [check_eq_policyCheck _ _ _ henabled]
    rw [check_eq_policyCheck _ _ _ henabled]
    rw [declarationFaults_prune]
    rw [hvars]
    rw [funext m.policyCheck_prune]
  . rw [check_eq_of_disabled _ _ _ henabled]
    rw [check_eq_of_disabled _ _ _ henabled]
    rw [declarationFaults_prune]
    rw [hvars]

theorem contentInto_congr {files others : List SourceFile}
    (h : List.Forall₂
      (fun file other => ∀ schema, extract file.index schema file.body = extract other.index schema other.body)
      files others)
    (schema : BodySchema) (done : BodyContent)
    : contentInto schema done files = contentInto schema done others := by
  induction h generalizing done with
  | nil => rfl
  | cons hfile _ ih =>
    unfold contentInto
    rw [hfile]
    simp only [ih]

theorem content_congr {m n : Module} {schema : BodySchema} (hschema : ∀ a ∈ schema.attributes, a.required = false)
    (h : List.Forall₂
      (fun file other => ∀ schema, extract file.index schema file.body = extract other.index schema other.body)
      m.files n.files)
    : m.content schema = n.content schema := by
  have hrequired (content : BodyContent) (range : Range) : content.checkRequired schema range = .ok () := by
    rw [checkRequired_eq_orFirst]
    rw [missingFaults_eq_nil_of_not_required hschema]
    rfl
  unfold content
  simp only [hrequired, contentInto_congr h]

theorem policyCheck_eq_bind (vars : Variables)
    : m.policyCheck vars
        =
      m.content schema >>= fun content =>
        reported ((BackendType.backends content).findSome? fun backend =>
          firstShortfall? (·.evalString vars.scope) backend requirements) := by
  unfold policyCheck
  rw [content_schema]
  rw [← backends_selected]
  cases m.backendFaults with
  | nil => rfl
  | cons => rfl

theorem check_congr {m n : Module} {rules : Ruleset} {config : Config}
    (hvariables : m.content variableSchema = n.content variableSchema)
    (hbackends : m.content schema = n.content schema)
    (hrules : Ruleset.builtin.applyConfig config = .ok rules) (given : List (String × Value))
    : m.check rules config given = n.check rules config given := by
  have hvars : m.variablesFor config given = n.variablesFor config given := by
    unfold variablesFor defaults
    rw [hvariables]
  rw [variablesFor_eq_orFirst] at hvars
  rw [variablesFor_eq_orFirst] at hvars
  have henabled := Ruleset.enabled_of_applyConfig hrules
  split at henabled
  . rw [check_eq_policyCheck _ _ _ henabled]
    rw [check_eq_policyCheck _ _ _ henabled]
    rw [hvars]
    congr 1
    funext vars
    rw [policyCheck_eq_bind]
    rw [policyCheck_eq_bind]
    rw [hbackends]
  . rw [check_eq_of_disabled _ _ _ henabled]
    rw [check_eq_of_disabled _ _ _ henabled]
    rw [hvars]

end Module

/--
Whether two files are the same once pruned: the same is kept, and in both files it is at the same places.
-/
structure SourceFile.SameOncePruned (file other : SourceFile) : Prop where
  body_eq : file.prune.body = other.prune.body
  range_eq : ∀ span ∈ spansOf file.prune.body, file.index.range span = other.index.range span

namespace Module

/--
Modules whose files are the same once pruned have the same variables and the same verdicts, whatever their texts
are.
-/
theorem outcomes_eq_of_sameOncePruned {m n : Module}
    (h : List.Forall₂ SourceFile.SameOncePruned m.files n.files)
    : m.defaults = n.defaults
        ∧ ∀ config given rules, Ruleset.builtin.applyConfig config = .ok rules
            → m.check rules config given = n.check rules config given := by
  have hextract : List.Forall₂
      (fun file other => ∀ schema, extract file.index schema file.body = extract other.index schema other.body)
      m.prune.files n.prune.files := by
    unfold prune
    rw [List.forall₂_map_left_iff]
    rw [List.forall₂_map_right_iff]
    apply h.imp
    intro file other hsame schema
    rw [← hsame.body_eq]
    exact extract_congr hsame.range_eq schema
  have hvariables : m.prune.content variableSchema = n.prune.content variableSchema :=
    content_congr (fun _ ha => nomatch ha) hextract
  have hbackends : m.prune.content BackendType.schema = n.prune.content BackendType.schema :=
    content_congr (fun _ ha => nomatch ha) hextract
  constructor
  . rw [← m.defaults_prune]
    rw [← n.defaults_prune]
    unfold defaults
    rw [hvariables]
  . intro config given rules hrules
    rw [← m.check_prune hrules]
    rw [← n.check_prune hrules]
    exact check_congr hvariables hbackends hrules given

def clutteredText : String :=
  "x = oops\nvariable \"l\" \x7b\n  default = \"POST\"\n  type = any\n\x7d\nterraform \x7b\n  cloud \"a\" \x7b\n  \x7d\n"
    ++ "  backend \"http\" \x7b\n    address = f()\n    lock_method = \"POST\"\n  \x7d\n\x7d\nbackend \x7b\n\x7d\n"

/--
A text of the same shape, with comments and another address in the place of the clutter.
-/
def tidyText : String :=
  "# no var\nvariable \"l\" \x7b\n  default = \"POST\"\n  # any type\n\x7d\nterraform \x7b\n  # local one\n  #\n"
    ++ "  backend \"http\" \x7b\n    address = 123\n    lock_method = \"POST\"\n  \x7d\n\x7d\n# nothing\n#\n"

def keptBody : Body := [
  .block "variable" ⟨9, 17⟩ [⟨"l", ⟨18, 21⟩⟩] [.attribute "default" (.string "POST") ⟨26, 42⟩ ⟨36, 42⟩],
  .block "terraform" ⟨58, 67⟩ [] [
    .block "backend" ⟨90, 97⟩ [⟨"http", ⟨98, 104⟩⟩] [
      .attribute "lock_method" (.string "POST") ⟨129, 149⟩ ⟨143, 149⟩]]]

def isKeptBody : Body → Bool
  | [.block "variable" kindSpan [label] [.attribute "default" (.string "POST") span valueSpan],
      .block "terraform" outerSpan [] [
        .block "backend" innerSpan [type] [.attribute "lock_method" (.string "POST") lockSpan lockValue]]] =>
    label = ⟨"l", ⟨18, 21⟩⟩ && type = ⟨"http", ⟨98, 104⟩⟩
      && [kindSpan, span, valueSpan, outerSpan, innerSpan, lockSpan, lockValue]
        = [⟨9, 17⟩, ⟨26, 42⟩, ⟨36, 42⟩, ⟨58, 67⟩, ⟨90, 97⟩, ⟨129, 149⟩, ⟨143, 149⟩]
  | _ => false

theorem eq_keptBody {body : Body} (h : isKeptBody body = true) : body = keptBody := by
  unfold isKeptBody at h
  split at h
  . simp only [Bool.and_eq_true, decide_eq_true_iff, List.cons.injEq, and_true] at h
    obtain ⟨⟨rfl, rfl⟩, rfl, rfl, rfl, rfl, rfl, rfl, rfl⟩ := h
    rfl
  . contradiction

theorem outcomes_eq_of_clutter
    : ∃ file other : SourceFile,
        SourceFile.ofSource "main.tf" clutteredText = .ok file
          ∧ SourceFile.ofSource "main.tf" tidyText = .ok other
          ∧ file.SameOncePruned other
          ∧ defaults ⟨[file]⟩ = defaults ⟨[other]⟩
          ∧ check ⟨[file]⟩ .builtin .default [] = check ⟨[other]⟩ .builtin .default [] := by
  have hparse : ((Hcl.parseFile clutteredText.toList).toOption.any fun body =>
      isKeptBody (body.filterMap pruneStructure?)) = true := by
    decide +kernel
  have hparse' : ((Hcl.parseFile tidyText.toList).toOption.any fun body =>
      isKeptBody (body.filterMap pruneStructure?)) = true := by
    decide +kernel
  have hshape : SameShape clutteredText.toList tidyText.toList := by
    unfold SameShape
    decide +kernel
  obtain ⟨file, hfile, hindex, hkept⟩ := SourceFile.exists_ofSource_of_any "main.tf" hparse
  obtain ⟨other, hother, hindex', hkept'⟩ := SourceFile.exists_ofSource_of_any "main.tf" hparse'
  have hsame : file.SameOncePruned other := by
    refine ⟨(eq_keptBody hkept).trans (eq_keptBody hkept').symm, ?_⟩
    intro span _
    rw [hindex]
    rw [hindex']
    apply LineIndex.range_ofSource_congr hshape
  have hfiles : List.Forall₂ SourceFile.SameOncePruned [file] [other] := .cons hsame .nil
  obtain ⟨hdefaults, hchecks⟩ := outcomes_eq_of_sameOncePruned hfiles
  exact ⟨file, other, hfile, hother, hsame, hdefaults, hchecks .default [] .builtin rfl⟩

end Module

end BackendPolicy
