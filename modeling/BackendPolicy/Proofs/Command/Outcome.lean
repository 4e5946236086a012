import BackendPolicy.Proofs.Command.Failure
import BackendPolicy.Proofs.Command.Listing
import BackendPolicy.Proofs.Rule.Ruleset

/-!
This module contains the outcomes of checks: a check fails, or it finishes with the issues that its rules report.
The main statement is `code_agrees_with_report`: the code tells which of these it is, however the issues are presented, and
what is written lists all of them.
-/

namespace BackendPolicy

theorem Ruleset.applyConfig_congr {config config' : Config} (h : config'.rules = config.rules) (r : Ruleset)
    : r.applyConfig config' = r.applyConfig config := by
  unfold applyConfig Config.ruleEnabled?
  rw [h]

namespace Module

theorem variablesFor_congr {config config' : Config} (h : config'.vars = config.vars) (m : Module)
    (given : List (String × Value))
    : m.variablesFor config' given = m.variablesFor config given := by
  unfold variablesFor
  rw [h]

theorem check_eq_ok_iff {m : Module} {rules : Ruleset} {config : Config} {given : List (String × Value)}
    {issues : List Issue}
    : m.check rules config given = .ok issues
        ↔
      ∃ vars,
        m.variablesFor config given = .ok vars
          ∧ ((Session.start m vars).check rules).2.result = .ok ()
          ∧ ((Session.start m vars).check rules).2.emitted = issues := by
  unfold check
  rw [bind_eq_ok_iff]
  apply exists_congr
  intro vars
  dsimp only
  rw [bind_eq_ok_iff]
  rw [Session.check_fst]
  constructor
  . rintro ⟨hvars, ⟨⟩, hresult, hissues⟩
    exact ⟨hvars, hresult, Except.ok.inj hissues⟩
  . rintro ⟨hvars, hresult, rfl⟩
    exact ⟨hvars, (), hresult, rfl⟩

theorem run_load_congr {files files' : FileAccess Id} {root : String}
    (hlisted : (files'.listFiles root).map sourceNames = (files.listFiles root).map sourceNames)
    (htexts : ∀ listed, files.listFiles root = .ok listed →
      ∀ name ∈ sourceNames listed,
        files'.readText (Path.join root name) = files.readText (Path.join root name))
    : (load files' root).run.run = (load files root).run.run := by
  rw [run_load]
  rw [run_load]
  cases hlist : files.listFiles root with
  | error fault =>
    rw [hlist] at hlisted
    rw [map_eq_error_iff.1 hlisted]
  | ok listed =>
    rw [hlist] at hlisted
    cases hlist' : files'.listFiles root with
    | error fault =>
      rw [hlist'] at hlisted
      contradiction
    | ok listed' =>
      rw [hlist'] at hlisted
      have hnames : sourceNames listed' = sourceNames listed := Except.ok.inj hlisted
      dsimp only
      rw [hnames]
      congr 1
      apply mapM_congr
      intro name hname
      rw [htexts listed hlist name hname]

end Module

namespace Command

section

variable (files : FileAccess Id) (root : String) (given : Given)

inductive Finds : List Issue → Prop where
  | intro {config : Config} {rules : Ruleset} {m : Module} {vars : Variables}
      (hconfig : HasConfig files root given.config config)
      (hrules : Ruleset.builtin.applyConfig config = .ok rules)
      (hmodule : (Module.load files root).run.run = .ok m)
      (hvars : m.variablesFor config (Module.givenValues given.vars) = .ok vars)
      (hresult : ((Session.start m vars).check rules).2.result = .ok ())
      : Finds ((Session.start m vars).check rules).2.emitted

inductive Ends (coloured : Bool) : Outcome → Prop where
  | failed {f : Failure} (hfault : EarliestFault files root given f) : Ends coloured ⟨1, "", f.report⟩
  | finished {config : Config} {issues : List Issue} (hconfig : HasConfig files root given.config config)
      (hfinds : Finds files root given issues)
      : Ends coloured
          ⟨if issues.isEmpty then 0 else 2,
            checkReport coloured given.quiet (given.format.getD config.format) issues, ""⟩

end

/--
Whether two checks of a directory ask for the same, in whatever form the answer is wanted: the files of the module
and the values that are given are the same, and so are the configurations apart from the form of the report.
-/
structure SameQuestion (files files' : FileAccess Id) (root : String) (given given' : Given) : Prop where
  vars : given'.vars = given.vars
  unconfigured : (∃ f, ConfigFails files' root given'.config f) ↔ ∃ f, ConfigFails files root given.config f
  configured : ∀ config config',
    HasConfig files root given.config config → HasConfig files' root given'.config config' →
      config'.rules = config.rules ∧ config'.vars = config.vars
  listed : (files'.listFiles root).map Module.sourceNames = (files.listFiles root).map Module.sourceNames
  texts : ∀ listed, files.listFiles root = .ok listed →
    ∀ name ∈ Module.sourceNames listed,
      files'.readText (Path.join root name) = files.readText (Path.join root name)

variable {files : FileAccess Id} {root : String} {given : Given}

theorem HasConfig.unique {path : Option String} {config config' : Config}
    (h : HasConfig files root path config) (h' : HasConfig files root path config')
    : config = config' := by
  rw [← loadConfig_eq_ok_iff] at h h'
  rw [h] at h'
  exact Except.ok.inj h'

variable (files root) in
theorem exists_hasConfig_iff (path : Option String)
    : (∃ config, HasConfig files root path config) ↔ ¬ ∃ f, ConfigFails files root path f := by
  simp only [← loadConfig_eq_ok_iff, ← loadConfig_eq_error_iff]
  cases (loadConfig files root path).run.run with
  | error => simp
  | ok => simp

namespace SameQuestion

variable {files' : FileAccess Id} {given' : Given}

theorem of_eq (hconfig : given'.config = given.config) (hvars : given'.vars = given.vars)
    : SameQuestion files files root given given' where
  vars := hvars
  unconfigured := by rw [hconfig]
  configured := by
    intro config config' h h'
    rw [hconfig] at h'
    obtain rfl := h.unique h'
    exact ⟨rfl, rfl⟩
  listed := rfl
  texts _ _ _ _ := rfl

theorem symm (h : SameQuestion files files' root given given') : SameQuestion files' files root given' given where
  vars := h.vars.symm
  unconfigured := h.unconfigured.symm
  configured := by
    intro config' config hconfig' hconfig
    obtain ⟨hrules, hvars⟩ := h.configured config config' hconfig hconfig'
    exact ⟨hrules.symm, hvars.symm⟩
  listed := h.listed.symm
  texts := by
    intro listed' hlist' name hname
    have hlisted := h.listed
    rw [hlist'] at hlisted
    cases hlist : files.listFiles root with
    | error =>
      rw [hlist] at hlisted
      contradiction
    | ok listed =>
      rw [hlist] at hlisted
      have hnames : Module.sourceNames listed' = Module.sourceNames listed := Except.ok.inj hlisted
      rw [hnames] at hname
      exact (h.texts listed hlist name hname).symm

theorem finds (h : SameQuestion files files' root given given') {issues : List Issue}
    (hfinds : Finds files root given issues)
    : Finds files' root given' issues := by
  obtain ⟨hconfig, hrules, hmodule, hvars, hresult⟩ := hfinds
  next config rules m vars =>
    have hconfigured : ¬ ∃ f, ConfigFails files' root given'.config f := by
      rw [h.unconfigured]
      rw [← exists_hasConfig_iff]
      exact ⟨config, hconfig⟩
    obtain ⟨config', hconfig'⟩ := (exists_hasConfig_iff files' root given'.config).2 hconfigured
    obtain ⟨hsameRules, hsameVars⟩ := h.configured config config' hconfig hconfig'
    refine .intro hconfig' ?_ ?_ ?_ hresult
    . rw [Ruleset.applyConfig_congr hsameRules]
      exact hrules
    . rw [Module.run_load_congr h.listed h.texts]
      exact hmodule
    . rw [Module.variablesFor_congr hsameVars]
      rw [h.vars]
      exact hvars

theorem finds_iff (h : SameQuestion files files' root given given') (issues : List Issue)
    : Finds files' root given' issues ↔ Finds files root given issues :=
  ⟨h.symm.finds, h.finds⟩

end SameQuestion

theorem Finds.unique {issues issues' : List Issue} (h : Finds files root given issues)
    (h' : Finds files root given issues')
    : issues = issues' := by
  obtain ⟨hconfig, hrules, hmodule, hvars, _⟩ := h
  obtain ⟨hconfig', hrules', hmodule', hvars', _⟩ := h'
  obtain rfl := hconfig.unique hconfig'
  rw [hrules] at hrules'
  cases hrules'
  rw [hmodule] at hmodule'
  cases hmodule'
  rw [hvars] at hvars'
  cases hvars'
  rfl

theorem runCheck_eq_ok_iff {coloured : Bool} {outcome : Outcome}
    : (runCheck files coloured root given).run.run = .ok outcome
        ↔
      ∃ config issues,
        HasConfig files root given.config config
          ∧ Finds files root given issues
          ∧ outcome = ⟨if issues.isEmpty then 0 else 2,
              checkReport coloured given.quiet (given.format.getD config.format) issues, ""⟩ := by
  rw [run_runCheck]
  simp only [bind_eq_ok_iff, loadConfig_eq_ok_iff, mapError_eq_ok_iff, Module.check_eq_ok_iff]
  constructor
  . rintro ⟨config, hconfig, rules, hrules, m, hmodule, issues, ⟨vars, hvars, hresult, rfl⟩, houtcome⟩
    exact ⟨config, _, hconfig, .intro hconfig hrules hmodule hvars hresult, (Except.ok.inj houtcome).symm⟩
  . rintro ⟨config, issues, hconfig, ⟨hconfig', hrules, hmodule, hvars, hresult⟩, rfl⟩
    obtain rfl := hconfig.unique hconfig'
    exact ⟨config, hconfig, _, hrules, _, hmodule, _, ⟨_, hvars, hresult, rfl⟩, rfl⟩

theorem Finds.not_fault {issues : List Issue} (h : Finds files root given issues)
    : ¬ ∃ place f, FaultAt files root given place f := by
  obtain ⟨config, hconfig⟩ : ∃ config, HasConfig files root given.config config := by
    obtain ⟨hconfig, _⟩ := h
    exact ⟨_, hconfig⟩
  have hrun : (runCheck files false root given).run.run = .ok _ :=
    runCheck_eq_ok_iff.2 ⟨config, issues, hconfig, h, rfl⟩
  rw [← exists_earliestFault_iff]
  rintro ⟨f, hfault⟩
  rw [(runCheck_eq_error_iff false).2 hfault] at hrun
  contradiction

theorem run_ends (files : FileAccess Id) (coloured : Bool) {arguments : List String}
    (h : Request.ofArguments arguments = .ok (.check root given))
    : Ends files root given coloured (run files coloured arguments).run := by
  have hrun : (run files coloured arguments).run
      = Outcome.ofResult (runCheck files coloured root given).run.run := by
    unfold run
    rw [h]
    rfl
  rw [hrun]
  cases hcheck : (runCheck files coloured root given).run.run with
  | error f => exact .failed ((runCheck_eq_error_iff coloured).1 hcheck)
  | ok outcome =>
    obtain ⟨config, issues, hconfig, hfinds, rfl⟩ := runCheck_eq_ok_iff.1 hcheck
    exact .finished hconfig hfinds

namespace Ends

variable {coloured : Bool} {outcome : Outcome} (h : Ends files root given coloured outcome)
include h

theorem code_of_fault (hfault : ∃ place f, FaultAt files root given place f)
    : outcome.code = 1 ∧ outcome.output = "" := by
  cases h with
  | failed => exact ⟨rfl, rfl⟩
  | finished _ hfinds => exact absurd hfault hfinds.not_fault

theorem code_of_finds {issues : List Issue} (hfinds : Finds files root given issues)
    : outcome.code = if issues.isEmpty then 0 else 2 := by
  cases h with
  | failed hfault => exact absurd (exists_earliestFault_iff.1 ⟨_, hfault⟩) hfinds.not_fault
  | finished _ hfinds' => rw [hfinds.unique hfinds']

theorem fault_or_finds
    : (∃ place f, FaultAt files root given place f) ∨ ∃ issues, Finds files root given issues := by
  cases h with
  | failed hfault => exact .inl (exists_earliestFault_iff.1 ⟨_, hfault⟩)
  | finished _ hfinds => exact .inr ⟨_, hfinds⟩

theorem code_eq_one_iff : outcome.code = 1 ↔ ∃ place f, FaultAt files root given place f := by
  constructor
  . intro hcode
    obtain hfault | ⟨issues, hfinds⟩ := h.fault_or_finds
    . exact hfault
    . rw [h.code_of_finds hfinds] at hcode
      split at hcode <;> contradiction
  . intro hfault
    exact (h.code_of_fault hfault).1

theorem code_eq_two_iff : outcome.code = 2 ↔ ∃ issues, Finds files root given issues ∧ issues ≠ [] := by
  constructor
  . intro hcode
    obtain hfault | ⟨issues, hfinds⟩ := h.fault_or_finds
    . rw [(h.code_of_fault hfault).1] at hcode
      contradiction
    . refine ⟨issues, hfinds, ?_⟩
      rintro rfl
      rw [h.code_of_finds hfinds] at hcode
      contradiction
  . rintro ⟨issues, hfinds, hissues⟩
    rw [h.code_of_finds hfinds]
    simp [hissues]

theorem code_eq_zero_iff : outcome.code = 0 ↔ Finds files root given [] := by
  constructor
  . intro hcode
    obtain hfault | ⟨issues, hfinds⟩ := h.fault_or_finds
    . rw [(h.code_of_fault hfault).1] at hcode
      contradiction
    . rw [h.code_of_finds hfinds] at hcode
      cases issues with
      | nil => exact hfinds
      | cons => contradiction
  . exact h.code_of_finds

theorem lists {config : Config} {issues : List Issue} (hconfig : HasConfig files root given.config config)
    (hfinds : Finds files root given issues) (hreport : outcome.output ≠ "")
    : Lists coloured (given.format.getD config.format) issues outcome.output := by
  cases h with
  | failed => exact absurd rfl hreport
  | finished hconfig' hfinds' =>
    obtain rfl := hconfig.unique hconfig'
    obtain rfl := hfinds.unique hfinds'
    exact checkReport_lists hreport

theorem output_ne_empty {issues : List Issue} (hfinds : Finds files root given issues)
    (hquiet : given.quiet = false)
    : outcome.output ≠ "" := by
  cases h with
  | failed hfault => exact absurd (exists_earliestFault_iff.1 ⟨_, hfault⟩) hfinds.not_fault
  | finished =>
    rw [hquiet]
    exact checkReport_ne_empty _ _ _

theorem code_eq {files' : FileAccess Id} {given' : Given} {coloured' : Bool} {outcome' : Outcome}
    (h' : Ends files' root given' coloured' outcome')
    (hfinds : ∀ issues, Finds files' root given' issues ↔ Finds files root given issues)
    : outcome'.code = outcome.code := by
  obtain hfault' | ⟨issues, hfinds'⟩ := h'.fault_or_finds
  . obtain hfault | ⟨issues, hissues⟩ := h.fault_or_finds
    . rw [(h.code_of_fault hfault).1]
      exact (h'.code_of_fault hfault').1
    . exact absurd hfault' ((hfinds issues).2 hissues).not_fault
  . rw [h'.code_of_finds hfinds']
    rw [h.code_of_finds ((hfinds issues).1 hfinds')]

end Ends

/--
A check ends with code 1 exactly if something is wrong, and then it writes no report. It ends with code 2 exactly
if it finishes with issues, and with code 0 exactly if it finishes without one. Whoever asks for the same in
another form gets the same code for the same issues. What is written lists all of them in the form that is given,
or else configured, and unless the check is quiet there is such a list.
-/
theorem code_agrees_with_report (files : FileAccess Id) (coloured : Bool) {arguments : List String} {root : String}
    {given : Given} (h : Request.ofArguments arguments = .ok (.check root given))
    : let outcome := (run files coloured arguments).run
      (outcome.code = 1 ↔ ∃ place f, FaultAt files root given place f)
        ∧ (outcome.code = 1 → outcome.output = "")
        ∧ (outcome.code = 2 ↔ ∃ issues, Finds files root given issues ∧ issues ≠ [])
        ∧ (outcome.code = 0 ↔ Finds files root given [])
        ∧ (∀ format quiet, SameQuestion files files root given { given with format, quiet })
        ∧ (∀ files' coloured' arguments' given',
            Request.ofArguments arguments' = .ok (.check root given')
              → SameQuestion files files' root given given'
              → (run files' coloured' arguments').run.code = outcome.code
                ∧ ∀ issues, Finds files' root given' issues ↔ Finds files root given issues)
        ∧ ∀ config issues,
            HasConfig files root given.config config
              → Finds files root given issues
              → (outcome.output ≠ ""
                  → Lists coloured (given.format.getD config.format) issues outcome.output)
                ∧ (given.quiet = false → outcome.output ≠ "") := by
  have hends := run_ends files coloured h
  refine ⟨hends.code_eq_one_iff, ?_, hends.code_eq_two_iff, hends.code_eq_zero_iff, ?_, ?_, ?_⟩
  . intro hcode
    exact (hends.code_of_fault (hends.code_eq_one_iff.1 hcode)).2
  . intro format quiet
    exact .of_eq rfl rfl
  . intro files' coloured' arguments' given' h' hsame
    exact ⟨hends.code_eq (run_ends files' coloured' h') hsame.finds_iff, hsame.finds_iff⟩
  . intro config issues hconfig hfinds
    exact ⟨hends.lists hconfig hfinds, hends.output_ne_empty hfinds⟩

def remoteText : String := "terraform \x7b\n  backend \"s3\" \x7b\x7d\n\x7d\n"

def remoteModule : Module :=
  ⟨[⟨.ofSource "a.tf" remoteText, (Hcl.parseFile remoteText.toList).toOption.getD []⟩]⟩

def remoteIssue : Issue :=
  ⟨"terraform_backend_type", .error, "backend type must be 'http', but found 's3'",
    "a.tf", ⟨2, 3, 14⟩, ⟨2, 15, 26⟩⟩

def formatText (format : Format) : String :=
  "_version = \"1\"\nformat = \"" ++ format.display ++ "\"\n"

def remoteFiles (format : Format) : FileAccess Id := siteFiles (formatText format) remoteText

theorem hasConfig_remote (format : Format)
    : ∃ config,
        HasConfig (remoteFiles format) "site" none config
          ∧ config.rules = .empty
          ∧ config.vars = .empty
          ∧ config.format = format := by
  have htext : ((Config.ofText (formatText format)).toOption.any fun config =>
      config.rules.entries = [] ∧ config.vars.entries = [] ∧ config.format = format) = true := by
    cases format <;> decide +kernel
  obtain ⟨config, hconfig, hempty⟩ := (Option.any_eq_true _ _).1 htext
  obtain ⟨hrules, hvars, hformat⟩ := of_decide_eq_true hempty
  exact ⟨config, .default (readText_site_config _ _) (toOption_eq_some_iff.1 hconfig), Dict.ext hrules, Dict.ext hvars,
    hformat⟩

theorem run_load_remote (format : Format)
    : (Module.load (remoteFiles format) "site").run.run = .ok remoteModule := by
  have hparse : (Hcl.parseFile remoteText.toList).toOption.isSome = true := by decide +kernel
  obtain ⟨body, hbody⟩ := Option.isSome_iff_exists.1 hparse
  have hfile : SourceFile.ofSource "a.tf" remoteText = .ok ⟨.ofSource "a.tf" remoteText, body⟩ :=
    SourceFile.ofSource_eq_ok_iff.2 ⟨rfl, toOption_eq_some_iff.1 hbody⟩
  unfold remoteFiles remoteModule
  rw [run_load_site hfile]
  rw [hbody]
  rfl

theorem finds_remote (format : Format) {given : Given} (hconfig : given.config = none) (hvars : given.vars = [])
    : Finds (remoteFiles format) "site" given [remoteIssue] := by
  have hcheck : (remoteModule.check .builtin .default []).toOption = some [remoteIssue] := by decide +kernel
  obtain ⟨vars, hvariables, hresult, hemitted⟩ := Module.check_eq_ok_iff.1 (toOption_eq_some_iff.1 hcheck)
  obtain ⟨config, hhas, hrules, hempty, _⟩ := hasConfig_remote format
  have hbuiltin : Ruleset.builtin.applyConfig config = Ruleset.builtin.applyConfig .default :=
    Ruleset.applyConfig_congr hrules .builtin
  have hsame : remoteModule.variablesFor config [] = remoteModule.variablesFor .default [] :=
    Module.variablesFor_congr hempty remoteModule []
  rw [← hemitted]
  refine .intro (hconfig ▸ hhas) (hbuiltin.trans rfl) (run_load_remote format) ?_ hresult
  rw [hvars]
  rw [← hvariables]
  exact hsame

theorem sameQuestion_remote {given given' : Given} (hconfig : given.config = none)
    (hconfig' : given'.config = none) (hvars : given'.vars = given.vars)
    : SameQuestion (remoteFiles .json) (remoteFiles .table) "site" given given' := by
  obtain ⟨chosen, hchosen, hrules, hempty, _⟩ := hasConfig_remote .json
  obtain ⟨chosen', hchosen', hrules', hempty', _⟩ := hasConfig_remote .table
  constructor
  . exact hvars
  . rw [hconfig]
    rw [hconfig']
    rw [← not_iff_not]
    rw [← exists_hasConfig_iff]
    rw [← exists_hasConfig_iff]
    exact ⟨fun _ => ⟨chosen, hchosen⟩, fun _ => ⟨chosen', hchosen'⟩⟩
  . intro config config' h h'
    rw [hconfig] at h
    rw [hconfig'] at h'
    obtain rfl := h.unique hchosen
    obtain rfl := h'.unique hchosen'
    exact ⟨hrules'.trans hrules.symm, hempty'.trans hempty.symm⟩
  . unfold remoteFiles
    rw [listFiles_site]
    rw [listFiles_site]
  . unfold remoteFiles
    intro listed hlisted name hname
    rw [listFiles_site] at hlisted
    obtain rfl := Except.ok.inj hlisted
    rw [← Module.areSourceNames_iff.1 areSourceNames_site] at hname
    obtain rfl := List.mem_singleton.1 hname
    rw [readText_site_source]
    rw [readText_site_source]

theorem code_agrees_with_report_of_formats
    : Request.ofArguments ["check", "-C", "site"] = .ok (.check "site" { root := some "site" })
        ∧ (run (remoteFiles .json) false ["check", "-C", "site"]).run.code = 2
        ∧ Lists false .json [remoteIssue] (run (remoteFiles .json) false ["check", "-C", "site"]).run.output
        ∧ (run (remoteFiles .table) true ["check", "-C", "site", "--format", "table", "-q"]).run.code = 2 := by
  have harguments : Request.ofArguments ["check", "-C", "site"]
      = .ok (.check "site" { root := some "site" }) := by
    rfl
  have harguments' : Request.ofArguments ["check", "-C", "site", "--format", "table", "-q"]
      = .ok (.check "site" { root := some "site", format := some .table, quiet := true }) := by
    rfl
  have hfinds : Finds (remoteFiles .json) "site" { root := some "site" } [remoteIssue] :=
    finds_remote .json rfl rfl
  obtain ⟨config, hconfig, _, _, hformat⟩ := hasConfig_remote .json
  obtain ⟨_, _, hissues, _, _, hsame, hreport⟩ := code_agrees_with_report (remoteFiles .json) false harguments
  have hcode : (run (remoteFiles .json) false ["check", "-C", "site"]).run.code = 2 :=
    hissues.2 ⟨_, hfinds, List.cons_ne_nil _ _⟩
  obtain ⟨hlists, hwritten⟩ := hreport config _ hconfig hfinds
  have hdocument := hlists (hwritten rfl)
  rw [hformat] at hdocument
  refine ⟨harguments, hcode, hdocument, ?_⟩
  rw [← hcode]
  exact (hsame _ _ _ _ harguments' (sameQuestion_remote rfl rfl rfl)).1

end Command

end BackendPolicy
