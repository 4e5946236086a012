import BackendPolicy.Proofs.Rule.Program
import BackendPolicy.Rule.BackendType

/-!
This module contains what programs report. An issue has the name and the severity of the rule that is named in the
report, which a program may choose. The rule on state backends only reports in its own name.
-/

namespace BackendPolicy

structure Report where
  reporter : RuleInfo
  message : String
  range : Range

def Report.issue (r : Report) : Issue where
  rule := r.reporter.name
  severity := r.reporter.severity
  message := r.message
  range := r.range

namespace Dialogue

variable {α β : Type}

def reports (host : Host) : Dialogue α → List Report
  | done _ => []
  | content schema next => (next (host.content schema)).reports host
  | evaluate a next => (next (host.evaluate a)).reports host
  | emit reporter message range next =>
    let report : Report := ⟨reporter, message, range⟩
    report :: (next (host.accept report.issue)).reports host

/--
Whether all that may be reported in a dialogue is in the name of one rule, whatever the answers are.
-/
inductive ReportsAs (info : RuleInfo) : Dialogue α → Prop where
  | done (result : Except RunError α) : ReportsAs info (.done result)
  | content (schema : BodySchema) {next : Except RunError BodyContent → Dialogue α}
      (hnext : ∀ answer, ReportsAs info (next answer)) : ReportsAs info (.content schema next)
  | evaluate (a : Attribute) {next : Except RunError String → Dialogue α}
      (hnext : ∀ answer, ReportsAs info (next answer)) : ReportsAs info (.evaluate a next)
  | emit (message : String) (range : Range) {next : Except RunError Unit → Dialogue α}
      (hnext : ∀ answer, ReportsAs info (next answer)) : ReportsAs info (.emit info message range next)

theorem emitted_run (host : Host) (d : Dialogue α)
    : (d.run host).emitted = (d.reports host).map Report.issue := by
  induction d with
  | done result => rfl
  | content schema next ih => exact ih (host.content schema)
  | evaluate a next ih => exact ih (host.evaluate a)
  | emit reporter message range next ih =>
    exact congrArg (reporter.issue message range :: ·) (ih (host.accept (reporter.issue message range)))

namespace ReportsAs

variable {info : RuleInfo} {d : Dialogue α}

theorem reporter_eq (h : d.ReportsAs info) (host : Host) : ∀ r ∈ d.reports host, r.reporter = info := by
  induction h with
  | done result => exact fun _ h => nomatch h
  | content schema _ ih => exact ih (host.content schema)
  | evaluate a _ ih => exact ih (host.evaluate a)
  | emit message range _ ih => exact List.forall_mem_cons.2 ⟨rfl, ih _⟩

theorem bind {f : α → Dialogue β} (h : d.ReportsAs info) (hf : ∀ a, (f a).ReportsAs info)
    : (d >>= f).ReportsAs info := by
  induction h with
  | done result =>
    cases result with
    | ok a => exact hf a
    | error e => exact .done _
  | content schema _ ih => exact .content schema ih
  | evaluate a _ ih => exact .evaluate a ih
  | emit message range _ ih => exact .emit message range ih

end ReportsAs

end Dialogue

namespace Program

variable {α β : Type} (info : RuleInfo)

def ReportsOwn (p : Program α) : Prop := Dialogue.ReportsAs info (p info)

theorem reportsOwn_pure (a : α) : ReportsOwn info (pure a) := .done _

theorem reportsOwn_getContent (schema : BodySchema) : ReportsOwn info (getContent schema) :=
  .content schema fun answer => .done answer

theorem reportsOwn_getString (a : Attribute) : ReportsOwn info (getString a) :=
  .evaluate a fun answer => .done answer

theorem reportsOwn_report (message : String) (range : Range) : ReportsOwn info (report message range) :=
  .emit message range fun answer => .done answer

variable {info}

theorem ReportsOwn.bind {p : Program α} {f : α → Program β} (h : p.ReportsOwn info)
    (hf : ∀ a, (f a).ReportsOwn info)
    : (p >>= f).ReportsOwn info :=
  Dialogue.ReportsAs.bind h hf

end Program

namespace Rule

def reports (host : Host) (rule : Rule) : List Report :=
  Dialogue.reports host (rule.check rule.info)

theorem emitted_run (host : Host) (rule : Rule)
    : (rule.run host).emitted = (rule.reports host).map Report.issue :=
  Dialogue.emitted_run host (rule.check rule.info)

theorem info_of_mem_emitted {rule : Rule} (h : rule.check.ReportsOwn rule.info) (host : Host)
    : ∀ issue ∈ (rule.run host).emitted,
        issue.rule = rule.info.name ∧ issue.severity = rule.info.severity := by
  rw [emitted_run]
  rw [List.forall_mem_map]
  intro r hr
  have hreporter : r.reporter = rule.info := h.reporter_eq host r hr
  rw [← hreporter]
  exact ⟨rfl, rfl⟩

end Rule

namespace BackendType

variable (info : RuleInfo)

theorem firstMethodViolation_reportsOwn (backend : Block) (policies : List MethodPolicy)
    : (firstMethodViolation backend policies).ReportsOwn info := by
  induction policies with
  | nil => apply Program.reportsOwn_pure
  | cons policy policies ih =>
    unfold firstMethodViolation
    split
    . apply Program.reportsOwn_pure
    . apply Program.ReportsOwn.bind
      . apply Program.reportsOwn_getString
      . intro verb
        split
        . exact ih
        . apply Program.reportsOwn_pure

theorem firstViolation_reportsOwn (backend : Block) : (firstViolation backend).ReportsOwn info := by
  unfold firstViolation
  split
  . apply firstMethodViolation_reportsOwn
  . apply Program.reportsOwn_pure

theorem checkAll_reportsOwn (backends : List Block) : (checkAll backends).ReportsOwn info := by
  induction backends with
  | nil => apply Program.reportsOwn_pure
  | cons backend backends ih =>
    unfold checkAll
    apply Program.ReportsOwn.bind
    . apply firstViolation_reportsOwn
    . intro found
      split
      . apply Program.reportsOwn_report
      . exact ih

theorem check_reportsOwn : check.ReportsOwn info := by
  unfold check
  apply Program.ReportsOwn.bind
  . apply Program.reportsOwn_getContent
  . intro content
    apply checkAll_reportsOwn

end BackendType

end BackendPolicy
