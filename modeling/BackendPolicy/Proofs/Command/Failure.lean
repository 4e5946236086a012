import BackendPolicy.Proofs.Command.Config
import BackendPolicy.Proofs.Module.Loading
import BackendPolicy.Proofs.Module.Phases
import BackendPolicy.Proofs.Module.Priority

/-!
This module contains the failures of the command that checks a module. A check has eight phases, and in each
of them something may be wrong at several places. The main statement is `run_fails_earliest`: a check fails if
and only if something is wrong in one of its phases, and then with what is wrong at the first place of the
first of these phases, and without a report on issues.
-/

namespace BackendPolicy.Command

section

variable (files : FileAccess Id) (root : String)

inductive HasModule : Module → Prop where
  | intro {listed names : List String} (hlist : files.listFiles root = .ok listed)
      (hnames : Module.AreSourceNames listed names) : HasModule (Module.legible files root names)

/--
What is wrong at a place of a check. A place begins with the number of the phase: the configuration, its rules,
the list of the files, the files, the labels of variables, their defaults, and unless the rule is switched off
the labels of backends and their methods.
-/
inductive FaultAt (given : Given) : List Nat → Failure → Prop where
  | config {f : Failure} (hconfig : ConfigFails files root given.config f) : FaultAt given [1] f
  | rule {config : Config} {i : Nat} {name : String} (hconfig : HasConfig files root given.config config)
      (hname : config.rules.names[i]? = some name) (hunknown : name ≠ "terraform_backend_type")
      : FaultAt given [2, i] (.ofUnknownRule ⟨name⟩)
  | listing {fault : FileFault} (hlist : files.listFiles root = .error fault)
      : FaultAt given [3]
          ((Failure.ofRunError (.unlistable root fault)).during s!"failed to load module in {root}")
  | file {listed names : List String} {i : Nat} {name : String} {e : RunError}
      (hlist : files.listFiles root = .ok listed) (hnames : Module.AreSourceNames listed names)
      (hname : names[i]? = some name)
      (hfails : SourceFile.ReadFails root name (files.readText (Path.join root name)) e)
      : FaultAt given [4, i] ((Failure.ofRunError e).during s!"failed to load module in {root}")
  | variableLabel {m : Module} {place : List Nat} {e : RunError} (hmodule : HasModule files root m)
      (hfault : m.VariableLabelFaultAt place e)
      : FaultAt given (5 :: place) (.ofRunError e)
  | default {m : Module} {place : List Nat} {e : RunError} (hmodule : HasModule files root m)
      (hfault : m.DefaultFaultAt place e)
      : FaultAt given (6 :: place) (.ofRunError e)
  | backendLabel {config : Config} {m : Module} {place : List Nat} {e : RunError}
      (hconfig : HasConfig files root given.config config)
      (henabled : config.ruleEnabled? "terraform_backend_type" ≠ some false)
      (hmodule : HasModule files root m)
      (hfault : m.BackendLabelFaultAt place e)
      : FaultAt given (7 :: place) (.ofRunError e)
  | method {config : Config} {m : Module} {place : List Nat} {e : RunError}
      (hconfig : HasConfig files root given.config config)
      (henabled : config.ruleEnabled? "terraform_backend_type" ≠ some false)
      (hmodule : HasModule files root m)
      (hfault : m.MethodFaultAt (m.finalVariables config (Module.givenValues given.vars)).scope place e)
      : FaultAt given (8 :: place) (.ofRunError e)

variable {files root}

section

variable (files root) (given : Given)

def config? : Option Config :=
  (loadConfig files root given.config).run.run.toOption

def names? : Option (List String) :=
  (files.listFiles root).toOption.map Module.sourceNames

def module? : Option Module :=
  (names? files root).map (Module.legible files root)

def unknownRules (config : Config) : List Failure :=
  (config.rules.names.filter fun name => name ≠ "terraform_backend_type").map fun name => .ofUnknownRule ⟨name⟩

def moduleFaults (faults : Module → List RunError) : List Failure :=
  (module? files root).toList.flatMap fun m => (faults m).map .ofRunError

def ruleFaults (faults : Config → Module → List RunError) : List Failure :=
  (config? files root given).toList.flatMap fun config =>
    if config.ruleEnabled? "terraform_backend_type" = some false then [] else
      moduleFaults files root (faults config)

def faultsIn : Nat → List Failure
  | 1 => faultsOf (loadConfig files root given.config).run.run
  | 2 => (config? files root given).toList.flatMap unknownRules
  | 3 =>
    (faultsOf (files.listFiles root)).map fun fault =>
      (Failure.ofRunError (.unlistable root fault)).during s!"failed to load module in {root}"
  | 4 =>
    (names? files root).toList.flatMap fun names =>
      (Module.readFaults files root names).map fun e =>
        (Failure.ofRunError e).during s!"failed to load module in {root}"
  | 5 => moduleFaults files root fun m => m.fileFaults Module.variableSchema
  | 6 => moduleFaults files root fun m => Module.failuresOf m.declarations
  | 7 => ruleFaults files root given fun _ m => m.backendFaults
  | 8 =>
    ruleFaults files root given fun config m =>
      m.methodFaults (m.finalVariables config (Module.givenValues given.vars)).scope
  | _ => []

def faults : List Failure :=
  (List.range' 1 8).flatMap (faultsIn files root given)

end

theorem config?_eq_some_iff {given : Given} {config : Config}
    : config? files root given = some config ↔ HasConfig files root given.config config := by
  unfold config?
  rw [toOption_eq_some_iff]
  rw [loadConfig_eq_ok_iff]

theorem names?_eq_some_iff {names : List String}
    : names? files root = some names
        ↔
      ∃ listed, files.listFiles root = .ok listed ∧ Module.AreSourceNames listed names := by
  unfold names?
  rw [Option.map_eq_some_iff]
  simp only [toOption_eq_some_iff, Module.areSourceNames_iff]
  simp only [eq_comm]

theorem module?_eq_some_iff {m : Module} : module? files root = some m ↔ HasModule files root m := by
  unfold module?
  rw [Option.map_eq_some_iff]
  simp only [names?_eq_some_iff]
  constructor
  . rintro ⟨names, ⟨listed, hlist, hnames⟩, rfl⟩
    exact .intro hlist hnames
  . rintro ⟨hlist, hnames⟩
    exact ⟨_, ⟨_, hlist, hnames⟩, rfl⟩

theorem moduleFaults_inOrder {faults : Module → List RunError} {At : Module → List Nat → RunError → Prop}
    (h : ∀ m, InOrder (At m) (faults m))
    : InOrder (fun place f => ∃ m, HasModule files root m ∧ ∃ e, At m place e ∧ .ofRunError e = f)
        (moduleFaults files root faults) := by
  simp only [← module?_eq_some_iff]
  exact .ofOption _ fun m => (h m).map _

theorem ruleFaults_inOrder (given : Given) {faults : Config → Module → List RunError}
    {At : Config → Module → List Nat → RunError → Prop}
    (h : ∀ config m, InOrder (At config m) (faults config m))
    : InOrder
        (fun place f =>
          ∃ config,
            HasConfig files root given.config config
              ∧ config.ruleEnabled? "terraform_backend_type" ≠ some false
              ∧ ∃ m, HasModule files root m ∧ ∃ e, At config m place e ∧ .ofRunError e = f)
        (ruleFaults files root given faults) := by
  simp only [← config?_eq_some_iff]
  exact .ofOption _ fun config => (moduleFaults_inOrder (h config)).guarded _

theorem readFaults_inOrder (names : List String)
    : InOrder
        (fun place e =>
          ∃ i name,
            names[i]? = some name
              ∧ place = [i]
              ∧ SourceFile.ReadFails root name (files.readText (Path.join root name)) e)
        (Module.readFaults files root names) := by
  have hall := InOrder.flatMap names fun name _ =>
    InOrder.faultsOf (SourceFile.ofRead root name (files.readText (Path.join root name)))
  apply hall.congr
  intro place e
  simp only [SourceFile.ofRead_eq_error_iff]
  constructor
  . rintro ⟨i, name, _, hname, rfl, rfl, hfails⟩
    exact ⟨i, name, hname, rfl, hfails⟩
  . rintro ⟨i, name, hname, rfl, hfails⟩
    exact ⟨i, name, [], hname, rfl, rfl, hfails⟩

theorem unknownRules_inOrder (config : Config)
    : InOrder
        (fun place f =>
          ∃ i name,
            config.rules.names[i]? = some name
              ∧ place = [i]
              ∧ name ≠ "terraform_backend_type"
              ∧ f = .ofUnknownRule ⟨name⟩)
        (unknownRules config) := by
  apply (InOrder.filter_map config.rules.names _ _).congr
  simp only [decide_eq_true_iff, implies_true]

theorem faultsIn_inOrder (given : Given) (n : Nat)
    : InOrder (fun place f => FaultAt files root given (n :: place) f) (faultsIn files root given n) := by
  match n with
  | 1 =>
    apply (InOrder.faultsOf _).congr
    intro place f
    rw [loadConfig_eq_error_iff]
    constructor
    . rintro ⟨rfl, hconfig⟩
      exact .config hconfig
    . intro h
      cases h with
      | config hconfig => exact ⟨rfl, hconfig⟩
  | 2 =>
    apply (InOrder.ofOption _ unknownRules_inOrder).congr
    intro place f
    simp only [config?_eq_some_iff]
    constructor
    . rintro ⟨config, hconfig, i, name, hname, rfl, hunknown, rfl⟩
      exact .rule hconfig hname hunknown
    . intro h
      cases h with
      | rule hconfig hname hunknown => exact ⟨_, hconfig, _, _, hname, rfl, hunknown, rfl⟩
  | 3 =>
    apply ((InOrder.faultsOf _).map _).congr
    intro place f
    constructor
    . rintro ⟨fault, ⟨rfl, hlist⟩, rfl⟩
      exact .listing hlist
    . intro h
      cases h with
      | listing hlist => exact ⟨_, ⟨rfl, hlist⟩, rfl⟩
  | 4 =>
    apply (InOrder.ofOption _ fun names => (readFaults_inOrder names).map _).congr
    intro place f
    simp only [names?_eq_some_iff]
    constructor
    . rintro ⟨names, ⟨listed, hlist, hnames⟩, e, ⟨i, name, hname, rfl, hfails⟩, rfl⟩
      exact .file hlist hnames hname hfails
    . intro h
      cases h with
      | file hlist hnames hname hfails => exact ⟨_, ⟨_, hlist, hnames⟩, _, ⟨_, _, hname, rfl, hfails⟩, rfl⟩
  | 5 =>
    apply (moduleFaults_inOrder fun m => m.variableLabelFaults_inOrder).congr
    intro place f
    constructor
    . rintro ⟨m, hmodule, e, hfault, rfl⟩
      exact .variableLabel hmodule hfault
    . intro h
      cases h with
      | variableLabel hmodule hfault => exact ⟨_, hmodule, _, hfault, rfl⟩
  | 6 =>
    apply (moduleFaults_inOrder fun m => m.defaultFaults_inOrder).congr
    intro place f
    constructor
    . rintro ⟨m, hmodule, e, hfault, rfl⟩
      exact .default hmodule hfault
    . intro h
      cases h with
      | default hmodule hfault => exact ⟨_, hmodule, _, hfault, rfl⟩
  | 7 =>
    apply (ruleFaults_inOrder given fun _ m => m.backendLabelFaults_inOrder).congr
    intro place f
    constructor
    . rintro ⟨config, hconfig, henabled, m, hmodule, e, hfault, rfl⟩
      exact .backendLabel hconfig henabled hmodule hfault
    . intro h
      cases h with
      | backendLabel hconfig henabled hmodule hfault =>
        exact ⟨_, hconfig, henabled, _, hmodule, _, hfault, rfl⟩
  | 8 =>
    apply (ruleFaults_inOrder given fun config m => m.methodFaults_inOrder _).congr
    intro place f
    constructor
    . rintro ⟨config, hconfig, henabled, m, hmodule, e, hfault, rfl⟩
      exact .method hconfig henabled hmodule hfault
    . intro h
      cases h with
      | method hconfig henabled hmodule hfault => exact ⟨_, hconfig, henabled, _, hmodule, _, hfault, rfl⟩
  | 0 =>
    apply InOrder.nil
    intro place f h
    cases h
  | n + 9 =>
    apply InOrder.nil
    intro place f h
    cases h

theorem FaultAt.exists_phase {given : Given} {place : List Nat} {f : Failure}
    (h : FaultAt files root given place f)
    : ∃ i < 8, ∃ rest, place = (1 + i) :: rest := by
  cases h with
  | config => exact ⟨0, by omega, _, rfl⟩
  | rule => exact ⟨1, by omega, _, rfl⟩
  | listing => exact ⟨2, by omega, _, rfl⟩
  | file => exact ⟨3, by omega, _, rfl⟩
  | variableLabel => exact ⟨4, by omega, _, rfl⟩
  | default => exact ⟨5, by omega, _, rfl⟩
  | backendLabel => exact ⟨6, by omega, _, rfl⟩
  | method => exact ⟨7, by omega, _, rfl⟩

theorem faults_inOrder (given : Given) : InOrder (FaultAt files root given) (faults files root given) := by
  have hphase (n : Nat) (_ : n ∈ List.range' 1 8)
      : InOrder (fun place f => FaultAt files root given (n :: place) f) (faultsIn files root given n) :=
    faultsIn_inOrder given n
  apply (InOrder.flatMap_from _ hphase 1).congr
  intro place f
  constructor
  . rintro ⟨i, n, rest, hn, rfl, hfault⟩
    obtain ⟨_, hn⟩ := List.getElem?_eq_some_iff.1 hn
    rw [List.getElem_range'] at hn
    rw [Nat.one_mul] at hn
    subst hn
    exact hfault
  . intro h
    obtain ⟨i, hi, rest, rfl⟩ := h.exists_phase
    exact ⟨i, 1 + i, rest, by simp [hi], rfl, h⟩

theorem run_orFail {ε α : Type} (failure : ε → Failure) (action : ExceptT ε Id α)
    : (orFail failure action).run.run = action.run.run.mapError failure := rfl

theorem run_runCheck (coloured : Bool) (given : Given)
    : (runCheck files coloured root given).run.run
        =
      ((loadConfig files root given.config).run.run >>= fun config =>
        (Ruleset.builtin.applyConfig config).mapError .ofUnknownRule >>= fun rules =>
        ((Module.load files root).run.run.mapError fun e =>
          (Failure.ofRunError e).during s!"failed to load module in {root}") >>= fun m =>
        (m.check rules config (Module.givenValues given.vars)).mapError .ofRunError >>= fun issues =>
        .ok ⟨if issues.isEmpty then 0 else 2,
          checkReport coloured given.quiet (given.format.getD config.format) issues, ""⟩) := by
  unfold runCheck configuredRules
  rw [exceptT_run_bind]
  congr 1
  funext config
  rw [exceptT_run_bind]
  rw [exceptT_run_ofExcept]
  congr 1
  funext rules
  rw [exceptT_run_bind]
  rw [run_orFail]
  congr 1
  funext m
  rw [exceptT_run_bind]
  rw [exceptT_run_ofExcept]
  rfl

theorem hasRule_builtin (name : String)
    : Ruleset.builtin.hasRule name = decide (name = "terraform_backend_type") := by
  change (decide ("terraform_backend_type" = name) || false) = _
  rw [Bool.or_false]
  simp only [eq_comm]

theorem applyConfig_eq_orFirst (config : Config)
    : ∃ rules,
        (Ruleset.builtin.applyConfig config).mapError .ofUnknownRule = orFirst (unknownRules config) rules := by
  unfold Ruleset.applyConfig unknownRules
  rw [← List.head?_filter]
  simp only [hasRule_builtin, ne_eq, decide_not]
  cases config.rules.names.filter fun name => !decide (name = "terraform_backend_type") with
  | nil => exact ⟨_, rfl⟩
  | cons => exact ⟨.builtin, rfl⟩

theorem moduleFaults_append (left right : Module → List RunError)
    : moduleFaults files root left ++ moduleFaults files root right
        =
      moduleFaults files root fun m => left m ++ right m := by
  unfold moduleFaults
  cases module? files root <;> simp

theorem exists_load_bind_eq_orFirst {rules : Ruleset} {config : Config}
    (hrules : Ruleset.builtin.applyConfig config = .ok rules) (given : Given) (next : List Issue → Outcome)
    : ∃ outcome,
        (((Module.load files root).run.run.mapError fun e =>
            (Failure.ofRunError e).during s!"failed to load module in {root}") >>= fun m =>
          (m.check rules config (Module.givenValues given.vars)).mapError .ofRunError >>= fun issues =>
          .ok (next issues))
            =
          orFirst
            (faultsIn files root given 3 ++ (faultsIn files root given 4
              ++ moduleFaults files root fun m =>
                m.declarationFaults ++ m.policyFaults config (Module.givenValues given.vars)))
            outcome := by
  cases hlist : files.listFiles root with
  | error fault =>
    rw [Module.run_load]
    refine ⟨default, ?_⟩
    simp only [faultsIn, hlist, faultsOf]
    rfl
  | ok listed =>
    rw [Module.load_eq_orFirst hlist]
    rw [mapError_orFirst]
    simp only [faultsIn, moduleFaults, module?, names?, hlist, faultsOf, Except.toOption, Option.map_some,
      Option.toList_some, List.flatMap_singleton, List.map_nil, List.nil_append]
    apply bind_eq_orFirst rfl
    intro _
    obtain ⟨issues, hcheck⟩ := Module.check_eq_orFirst _ hrules (Module.givenValues given.vars)
    rw [hcheck]
    rw [mapError_orFirst]
    refine ⟨next issues, ?_⟩
    cases List.map Failure.ofRunError _ <;> rfl

variable (files root) in
theorem runCheck_eq_orFirst (coloured : Bool) (given : Given)
    : ∃ outcome, (runCheck files coloured root given).run.run = orFirst (faults files root given) outcome := by
  have hfaults : faults files root given
      = faultsIn files root given 1 ++ (faultsIn files root given 2 ++ (faultsIn files root given 3
        ++ (faultsIn files root given 4 ++ ((faultsIn files root given 5 ++ faultsIn files root given 6)
          ++ (faultsIn files root given 7 ++ faultsIn files root given 8))))) := by
    simp [faults, List.range']
  rw [run_runCheck]
  rw [hfaults]
  cases hconfig : (loadConfig files root given.config).run.run with
  | error f =>
    refine ⟨default, ?_⟩
    simp only [faultsIn, hconfig, faultsOf]
    rfl
  | ok config =>
    have hconfig? : config? files root given = some config := toOption_eq_some_iff.2 hconfig
    have hfirst : faultsIn files root given 1 = [] := by simp only [faultsIn, hconfig, faultsOf]
    have hsecond : faultsIn files root given 2 = unknownRules config := by simp [faultsIn, hconfig?]
    have hmodule : faultsIn files root given 5 ++ faultsIn files root given 6
        = moduleFaults files root fun m => m.declarationFaults := moduleFaults_append _ _
    have hrule : faultsIn files root given 7 ++ faultsIn files root given 8
        = moduleFaults files root fun m => m.policyFaults config (Module.givenValues given.vars) := by
      simp only [faultsIn, ruleFaults, hconfig?, Option.toList_some, List.flatMap_singleton,
        Module.policyFaults]
      split
      . simp [moduleFaults]
      . exact moduleFaults_append _ _
    rw [hfirst]
    rw [hsecond]
    rw [hmodule]
    rw [hrule]
    rw [moduleFaults_append]
    obtain ⟨rules, hrules⟩ := applyConfig_eq_orFirst config
    apply bind_eq_orFirst hrules
    intro hnil
    rw [hnil] at hrules
    exact exists_load_bind_eq_orFirst (mapError_eq_ok_iff.1 hrules) given _

theorem code_ne_one_of_runCheck {coloured : Bool} {given : Given} {outcome : Outcome}
    (h : (runCheck files coloured root given).run.run = .ok outcome)
    : outcome.code ≠ 1 := by
  rw [run_runCheck] at h
  obtain ⟨config, _, h⟩ := bind_eq_ok_iff.1 h
  obtain ⟨rules, _, h⟩ := bind_eq_ok_iff.1 h
  obtain ⟨m, _, h⟩ := bind_eq_ok_iff.1 h
  obtain ⟨issues, _, h⟩ := bind_eq_ok_iff.1 h
  cases h
  dsimp only
  split <;> simp

variable (files root) in
/--
Whether a failure is at the least of the places where something is wrong.
-/
def EarliestFault (given : Given) (f : Failure) : Prop :=
  ∃ place, FaultAt files root given place f ∧ ∀ other f', FaultAt files root given other f' → place ≤ other

theorem runCheck_eq_error_iff (coloured : Bool) {given : Given} {f : Failure}
    : (runCheck files coloured root given).run.run = .error f ↔ EarliestFault files root given f := by
  obtain ⟨outcome, h⟩ := runCheck_eq_orFirst files root coloured given
  rw [h]
  rw [orFirst_eq_error_iff]
  exact (faults_inOrder given).head?_eq_some_iff

theorem exists_earliestFault_iff {given : Given}
    : (∃ f, EarliestFault files root given f) ↔ ∃ place f, FaultAt files root given place f := by
  constructor
  . rintro ⟨f, place, hfault, _⟩
    exact ⟨place, f, hfault⟩
  . intro h
    obtain ⟨place, f, hfault, hleast⟩ := (faults_inOrder given).exists_least h
    exact ⟨f, place, hfault, hleast⟩

end

namespace Failure

/--
What stands before a cause: nothing if it is the only one, else its number in a column of five characters.
-/
def mark (count n : Nat) : String :=
  if count = 1 then "    " else String.ofList ((toString n).toList.leftpad 5 ' ') ++ ": "

/--
A cause behind its mark. Its further lines are indented as far as the mark is wide.
-/
def marked (mark cause : String) : String :=
  mark ++ ("\n" ++ String.ofList (List.replicate mark.length ' ')).intercalate (cause.splitOn "\n")

/--
Whether a text reports a failure: its message, and what led to it from the nearest cause to the first one.
-/
inductive IsReport (f : Failure) : String → Prop where
  | plain (hcauses : f.causes = []) : IsReport f ("Error: " ++ f.message ++ "\n")
  | caused (hcauses : f.causes ≠ [])
      : IsReport f
          ("Error: " ++ f.message ++ "\n\nCaused by:\n"
            ++ String.join
                ((f.causes.mapIdx fun n cause => marked (mark f.causes.length n) cause).map (· ++ "\n")))

theorem numbered_eq_mark {count : Nat} (h : count ≠ 1) (n : Nat) : numbered n = mark count n := by
  unfold numbered mark
  rw [if_neg h]
  rw [← String.toList_inj]
  simp [List.leftpad, ← String.length_toList]

theorem causeLines_eq_mapIdx (causes : List String)
    : causeLines causes = causes.mapIdx fun n cause => marked (mark causes.length n) cause := by
  match causes with
  | [] => simp [causeLines]
  | [cause] => simp [causeLines, causeText, marked, mark]
  | first :: second :: rest =>
    have hcount : (first :: second :: rest).length ≠ 1 := by simp
    simp only [← numbered_eq_mark hcount]
    rfl

theorem report_isReport (f : Failure) : f.IsReport f.report := by
  by_cases hcauses : f.causes = []
  . have hreport : f.report = "Error: " ++ f.message ++ "\n" := by
      simp [report, hcauses, writeLines, toString]
    rw [hreport]
    exact .plain hcauses
  . have hreport : f.report
        = "Error: " ++ f.message ++ "\n\nCaused by:\n"
            ++ String.join ((causeLines f.causes).map (· ++ "\n")) := by
      rw [← String.toList_inj]
      simp [report, hcauses, writeLines, toString]
    rw [hreport]
    rw [causeLines_eq_mapIdx]
    exact .caused hcauses

end Failure

/--
A check fails exactly if something is wrong in one of its phases. It fails with what is wrong at the least place,
and reports this and nothing else: there is no report on issues, whatever comes before that place in the files.
-/
theorem run_fails_earliest (files : FileAccess Id) (coloured : Bool) {arguments : List String} {root : String}
    {given : Given} (h : Request.ofArguments arguments = .ok (.check root given))
    : ((run files coloured arguments).run.code = 1 ↔ ∃ place f, FaultAt files root given place f)
        ∧ ((∃ place f, FaultAt files root given place f) → ∃ f, EarliestFault files root given f)
        ∧ ∀ f,
            EarliestFault files root given f
              → (runCheck files coloured root given).run.run = .error f
                ∧ ∃ errors, f.IsReport errors ∧ (run files coloured arguments).run = ⟨1, "", errors⟩ := by
  have hrun : (run files coloured arguments).run
      = Outcome.ofResult (runCheck files coloured root given).run.run := by
    unfold run
    rw [h]
    rfl
  refine ⟨?_, exists_earliestFault_iff.2, ?_⟩
  . rw [hrun]
    rw [← exists_earliestFault_iff]
    simp only [← runCheck_eq_error_iff coloured]
    cases hcheck : (runCheck files coloured root given).run.run with
    | error f => simp [Outcome.ofResult]
    | ok outcome => simpa [Outcome.ofResult] using code_ne_one_of_runCheck hcheck
  . intro f hf
    have hcheck := (runCheck_eq_error_iff coloured).2 hf
    refine ⟨hcheck, f.report, f.report_isReport, ?_⟩
    rw [hrun]
    rw [hcheck]
    rfl

section

variable (configuration source : String)

def siteEntries : List (String × FileTree) :=
  [(".backend-lint.toml", .file configuration.toUTF8), ("a.tf", .file source.toUTF8)]

def siteFiles : FileAccess Id :=
  (FileTree.directory [("site", .directory (siteEntries configuration source))]).access []

theorem locate_site
    : (FileTree.directory [("site", .directory (siteEntries configuration source))]).locate [] "site"
        =
      .ok (.directory (siteEntries configuration source)) := by
  have hsteps : FileTree.steps "site" = ["site"] := by
    rw [FileTree.steps_eq]
    decide
  have horigin : FileTree.origin [] "site" = [] := by rfl
  rw [FileTree.locate_eq_ok_iff]
  refine ⟨by decide, ["site"], ?_, rfl⟩
  rw [hsteps]
  rw [horigin]
  simp [FileTree.maxLinks, FileTree.follow, FileTree.at?]

theorem listFiles_site : (siteFiles configuration source).listFiles "site" = .ok [".backend-lint.toml", "a.tf"] :=
  FileTree.listFiles_of_locate (locate_site configuration source)

theorem readText_site_config
    : (siteFiles configuration source).readText (Path.join "site" ".backend-lint.toml") = .ok configuration :=
  (FileTree.readText_join (locate_site configuration source) (by decide) rfl).trans (textOfBytes_toUTF8 _)

theorem readText_site_source
    : (siteFiles configuration source).readText (Path.join "site" "a.tf") = .ok source :=
  (FileTree.readText_join (locate_site configuration source) (by decide) rfl).trans (textOfBytes_toUTF8 _)

theorem areSourceNames_site : Module.AreSourceNames [".backend-lint.toml", "a.tf"] ["a.tf"] :=
  ⟨List.Perm.of_eq (by decide), List.pairwise_singleton _ _⟩

theorem run_load_site {configuration source : String} {file : SourceFile}
    (h : SourceFile.ofSource "a.tf" source = .ok file)
    : (Module.load (siteFiles configuration source) "site").run.run = .ok ⟨[file]⟩ := by
  rw [Module.run_load]
  rw [listFiles_site]
  dsimp only
  rw [← Module.areSourceNames_iff.1 areSourceNames_site]
  rw [List.mapM_cons]
  rw [readText_site_source]
  rw [SourceFile.ofRead]
  rw [h]
  rfl

end

def unnamedText : String := "terraform \x7b\n  backend \"s3\" \x7b\x7d\n\x7d\nvariable \x7b\x7d\n"

def unnamedFile : SourceFile :=
  ⟨.ofSource "a.tf" unnamedText, (Hcl.parseFile unnamedText.toList).toOption.getD []⟩

def unnamedFailure : Failure := ⟨"a.tf:4,1-4,9: variable blocks must have 1 label(s) (name), found 0", []⟩

def isUnnamed (index : LineIndex) : Structure → Bool
  | .attribute _ _ _ _ => false
  | .block kind span labels _ =>
    kind = "variable" && labels.isEmpty
      && Failure.ofRunError (.labelCount "variable" ["name"] 0 (headOf index span labels)) = unnamedFailure

theorem ofSource_unnamed : SourceFile.ofSource "a.tf" unnamedText = .ok unnamedFile := by
  have hparse : (Hcl.parseFile unnamedText.toList).toOption.isSome = true := by decide +kernel
  obtain ⟨body, hbody⟩ := Option.isSome_iff_exists.1 hparse
  have hfile : unnamedFile = ⟨.ofSource "a.tf" unnamedText, body⟩ := by
    unfold unnamedFile
    rw [hbody]
    rfl
  rw [hfile]
  exact SourceFile.ofSource_eq_ok_iff.2 ⟨rfl, toOption_eq_some_iff.1 hbody⟩

theorem faultAt_unnamed (configuration : String) (given : Given)
    : FaultAt (siteFiles configuration unnamedText) "site" given [5, 0, 1] unnamedFailure := by
  have hunnamed : (unnamedFile.body[1]?.any (isUnnamed unnamedFile.index)) = true := by decide +kernel
  have hlegible : (Module.legible (siteFiles configuration unnamedText) "site" ["a.tf"]).files[0]?
      = some unnamedFile := by
    unfold Module.legible
    simp only [List.filterMap_cons, readText_site_source, SourceFile.ofRead, ofSource_unnamed, Except.toOption]
    rfl
  obtain ⟨s, hs, hunnamed⟩ := (Option.any_eq_true _ _).1 hunnamed
  rcases s with _ | ⟨kind, span, labels, inner⟩
  . contradiction
  . simp only [isUnnamed, Bool.and_eq_true, decide_eq_true_iff, List.isEmpty_iff] at hunnamed
    obtain ⟨⟨rfl, rfl⟩, hfailure⟩ := hunnamed
    rw [← hfailure]
    exact .variableLabel (.intro (listFiles_site _ _) areSourceNames_site)
      (.intro (.intro hlegible hs) (by simp))

theorem exists_defaults_unnamed
    : ∃ e, (⟨[unnamedFile]⟩ : Module).defaults = .error e ∧ Failure.ofRunError e = unnamedFailure := by
  have hdefaults : (faultsOf (⟨[unnamedFile]⟩ : Module).defaults).map Failure.ofRunError = [unnamedFailure] := by
    decide +kernel
  cases hresult : (⟨[unnamedFile]⟩ : Module).defaults with
  | ok => simp [hresult, faultsOf] at hdefaults
  | error e => exact ⟨e, rfl, by simpa [hresult, faultsOf] using hdefaults⟩

theorem exists_ofText_version
    : ∃ config, Config.ofText "_version = \"1\"\n" = .ok config ∧ config.rules = .empty := by
  have htext : ((Config.ofText "_version = \"1\"\n").toOption.any fun config => config.rules.entries = [])
      = true := by
    decide +kernel
  obtain ⟨config, hconfig, hempty⟩ := (Option.any_eq_true _ _).1 htext
  exact ⟨config, toOption_eq_some_iff.1 hconfig, Dict.ext (of_decide_eq_true hempty)⟩

theorem runCheck_unnamed {given : Given} (hdefault : given.config = none)
    : (runCheck (siteFiles "_version = \"1\"\n" unnamedText) false "site" given).run.run
        =
      .error unnamedFailure := by
  obtain ⟨config, hconfig, hrules⟩ := exists_ofText_version
  obtain ⟨e, he, hfailure⟩ := exists_defaults_unnamed
  have hloaded : (loadConfig (siteFiles "_version = \"1\"\n" unnamedText) "site" given.config).run.run
      = .ok config := by
    rw [hdefault]
    exact loadConfig_eq_ok_iff.2 (.default (readText_site_config _ _) hconfig)
  obtain ⟨rules, happlied⟩ : ∃ rules, Ruleset.builtin.applyConfig config = .ok rules := by
    unfold Ruleset.applyConfig
    rw [hrules]
    exact ⟨_, rfl⟩
  rw [run_runCheck]
  rw [hloaded]
  rw [run_load_site ofSource_unnamed]
  dsimp only [bind, Except.bind]
  rw [happlied]
  dsimp only [Except.mapError]
  rw [Module.check_of_defaults_eq_error rules _ he]
  rw [← hfailure]

theorem run_fails_earliest_unnamed
    : let files := siteFiles "_version = \"1\"\n" unnamedText
      let given : Given := { root := some "site" }
      Request.ofArguments ["check", "-C", "site"] = .ok (.check "site" given)
        ∧ FaultAt files "site" given [5, 0, 1] unnamedFailure
        ∧ EarliestFault files "site" given unnamedFailure
        ∧ (run files false ["check", "-C", "site"]).run
            = ⟨1, "", "Error: a.tf:4,1-4,9: variable blocks must have 1 label(s) (name), found 0\n"⟩ := by
  intro files given
  have harguments : Request.ofArguments ["check", "-C", "site"] = .ok (.check "site" given) := by
    rfl
  have hfault : FaultAt files "site" given [5, 0, 1] unnamedFailure := faultAt_unnamed _ given
  have hruns := run_fails_earliest files false harguments
  obtain ⟨f, hf⟩ := hruns.2.1 ⟨_, _, hfault⟩
  obtain ⟨hfails, errors, hreport, hrun⟩ := hruns.2.2 f hf
  rw [runCheck_unnamed rfl] at hfails
  obtain rfl := Except.error.inj hfails
  refine ⟨harguments, hfault, hf, ?_⟩
  rw [hrun]
  cases hreport with
  | plain => rfl
  | caused hcauses => exact absurd rfl hcauses

end BackendPolicy.Command
