import BackendPolicy.Proofs.Command.Outcome

/-!
This module contains what quiet checks write. The main statement is `quiet_hides_tables`: a quiet check only differs
from others in that it writes no table. A document is written all the same.
-/

namespace BackendPolicy.Command

theorem writeLines_cons_ne_empty (line : String) (lines : List String) : writeLines (line :: lines) ≠ "" := by
  simp [writeLines]

theorem Failure.report_ne_empty (f : Failure) : f.report ≠ "" := by
  unfold report
  split
  . exact writeLines_cons_ne_empty _ _
  . exact writeLines_cons_ne_empty _ _

variable {files : FileAccess Id} {root : String} {given given' : Given}

theorem FaultAt.congr (hconfig : given'.config = given.config) (hvars : given'.vars = given.vars)
    {place : List Nat} {f : Failure} (h : FaultAt files root given place f)
    : FaultAt files root given' place f := by
  cases h with
  | config hfails => exact .config (hconfig ▸ hfails)
  | rule hhas hname hunknown => exact .rule (hconfig ▸ hhas) hname hunknown
  | listing hlist => exact .listing hlist
  | file hlist hnames hname hfails => exact .file hlist hnames hname hfails
  | variableLabel hmodule hfault => exact .variableLabel hmodule hfault
  | default hmodule hfault => exact .default hmodule hfault
  | backendLabel hhas henabled hmodule hfault => exact .backendLabel (hconfig ▸ hhas) henabled hmodule hfault
  | method hhas henabled hmodule hfault => exact .method (hconfig ▸ hhas) henabled hmodule (hvars ▸ hfault)

theorem EarliestFault.congr (hconfig : given'.config = given.config) (hvars : given'.vars = given.vars)
    {f : Failure} (h : EarliestFault files root given f)
    : EarliestFault files root given' f := by
  obtain ⟨place, hfault, hleast⟩ := h
  refine ⟨place, hfault.congr hconfig hvars, ?_⟩
  intro other f' hother
  exact hleast other f' (hother.congr hconfig.symm hvars.symm)

theorem EarliestFault.unique {f f' : Failure} (h : EarliestFault files root given f)
    (h' : EarliestFault files root given f')
    : f = f' := by
  rw [← runCheck_eq_error_iff false] at h h'
  rw [h] at h'
  exact Except.error.inj h'

theorem Finds.not_earliestFault {issues : List Issue} (h : Finds files root given issues) (f : Failure)
    : ¬ EarliestFault files root given f := by
  intro hfault
  exact h.not_fault (exists_earliestFault_iff.1 ⟨f, hfault⟩)

namespace Ends

variable {coloured : Bool} {outcome : Outcome} (h : Ends files root given coloured outcome)
include h

theorem errors_eq_empty_iff : outcome.errors = "" ↔ ¬ ∃ place f, FaultAt files root given place f := by
  cases h with
  | failed hfault => simp [Failure.report_ne_empty, exists_earliestFault_iff.1 ⟨_, hfault⟩]
  | finished _ hfinds => simp [hfinds.not_fault]

theorem errors_eq {coloured' : Bool} {outcome' : Outcome} (h' : Ends files root given' coloured' outcome')
    (hconfig : given'.config = given.config) (hvars : given'.vars = given.vars)
    : outcome'.errors = outcome.errors := by
  cases h with
  | failed hfault =>
    cases h' with
    | failed hfault' => rw [hfault'.unique (hfault.congr hconfig hvars)]
    | finished _ hfinds' => exact absurd (hfault.congr hconfig hvars) (hfinds'.not_earliestFault _)
  | finished _ hfinds =>
    cases h' with
    | failed hfault' => exact absurd (hfault'.congr hconfig.symm hvars.symm) (hfinds.not_earliestFault _)
    | finished => rfl

theorem output_eq {config : Config} {issues : List Issue} (hconfig : HasConfig files root given.config config)
    (hfinds : Finds files root given issues)
    : outcome.output = checkReport coloured given.quiet (given.format.getD config.format) issues := by
  cases h with
  | failed hfault => exact absurd hfault (hfinds.not_earliestFault _)
  | finished hconfig' hfinds' =>
    rw [hconfig.unique hconfig']
    rw [hfinds.unique hfinds']

theorem output_eq_empty_iff (hquiet : given.quiet = true)
    : outcome.output = ""
        ↔
      (∃ place f, FaultAt files root given place f)
        ∨ ∃ config, HasConfig files root given.config config ∧ given.format.getD config.format = .table := by
  cases h with
  | failed hfault => simp [exists_earliestFault_iff.1 ⟨_, hfault⟩]
  | @finished config issues hconfig hfinds =>
    rw [hquiet]
    constructor
    . intro hempty
      refine .inr ⟨config, hconfig, ?_⟩
      cases hformat : given.format.getD config.format with
      | table => rfl
      | json =>
        rw [hformat] at hempty
        exact absurd hempty (jsonReport_lists coloured issues).ne_empty
    . rintro (hfault | ⟨config', hconfig', hformat⟩)
      . exact absurd hfault hfinds.not_fault
      . obtain rfl := hconfig.unique hconfig'
        rw [hformat]
        rfl

end Ends

/--
A quiet check writes nothing to standard output exactly if it fails or its form is a table. In the other form it
writes the whole document. Its code, its issues and what it writes to standard error are those of the same check
that is not quiet, and it writes to standard error exactly if it fails.
-/
theorem quiet_hides_tables (files : FileAccess Id) (coloured : Bool) {arguments : List String} {root : String}
    {given : Given} (h : Request.ofArguments arguments = .ok (.check root given)) (hquiet : given.quiet = true)
    : let outcome := (run files coloured arguments).run
      (outcome.output = ""
            ↔
          (∃ place f, FaultAt files root given place f)
            ∨ ∃ config, HasConfig files root given.config config ∧ given.format.getD config.format = .table)
        ∧ (outcome.errors = "" ↔ ¬ ∃ place f, FaultAt files root given place f)
        ∧ (∀ config issues,
            HasConfig files root given.config config
              → Finds files root given issues
              → given.format.getD config.format = .json
              → outcome.output = jsonReport issues)
        ∧ ∀ arguments',
            Request.ofArguments arguments' = .ok (.check root { given with quiet := false })
              → (run files coloured arguments').run.code = outcome.code
                ∧ (run files coloured arguments').run.errors = outcome.errors
                ∧ ∀ issues,
                    Finds files root { given with quiet := false } issues ↔ Finds files root given issues := by
  have hends := run_ends files coloured h
  refine ⟨hends.output_eq_empty_iff hquiet, hends.errors_eq_empty_iff, ?_, ?_⟩
  . intro config issues hconfig hfinds hformat
    rw [hends.output_eq hconfig hfinds]
    rw [hformat]
    rfl
  . intro arguments' h'
    have hends' := run_ends files coloured h'
    have hsame : SameQuestion files files root given { given with quiet := false } := .of_eq rfl rfl
    exact ⟨hends.code_eq hends' hsame.finds_iff, hends.errors_eq hends' rfl rfl, hsame.finds_iff⟩

theorem quiet_hides_tables_of_formats
    : Request.ofArguments ["check", "-C", "site", "--quiet"]
          = .ok (.check "site" { root := some "site", quiet := true })
        ∧ (run (remoteFiles .table) false ["check", "-C", "site", "--quiet"]).run.output = ""
        ∧ (run (remoteFiles .json) false ["check", "-C", "site", "--quiet"]).run.output
            = jsonReport [remoteIssue] := by
  have harguments : Request.ofArguments ["check", "-C", "site", "--quiet"]
      = .ok (.check "site" { root := some "site", quiet := true }) := by
    rfl
  obtain ⟨config, hconfig, _, _, hformat⟩ := hasConfig_remote .table
  obtain ⟨config', hconfig', _, _, hformat'⟩ := hasConfig_remote .json
  have htable := quiet_hides_tables (remoteFiles .table) false harguments rfl
  have hdocument := quiet_hides_tables (remoteFiles .json) false harguments rfl
  refine ⟨harguments, htable.1.2 (.inr ⟨config, hconfig, hformat⟩), ?_⟩
  exact hdocument.2.2.1 config' _ hconfig' (finds_remote .json rfl rfl) hformat'

end BackendPolicy.Command
