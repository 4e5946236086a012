import BackendPolicy.Proofs.Rule.Reports
import BackendPolicy.Proofs.Rule.Session

/-!
This module contains the runs of rulesets. `Session.exec` runs a program call by call on a session that takes
every report at once, and `Session.check` comes to the same. The main statement is `check_in_turn`: the issues of
a check are those of its enabled rules in turn, up to and including the first rule that fails.
-/

namespace BackendPolicy

namespace Run

variable {α β γ : Type}

theorem andThen_andThen (r : Run α) (next : α → Run β) (last : β → Run γ)
    : (r.andThen next).andThen last = r.andThen fun a => (next a).andThen last := by
  obtain ⟨calls, result⟩ := r
  cases result with
  | error => rfl
  | ok a =>
    unfold andThen
    dsimp only
    cases (next a).result with
    | error => rfl
    | ok => simp

end Run

namespace Ruleset

/--
Rules, those of them that run if every rule only runs when all before it succeed, and how this ends.
-/
inductive RunsUntil (host : Host) : List Rule → List Rule → Except RunError Unit → Prop where
  | success {rules : List Rule} (hall : ∀ rule ∈ rules, (rule.run host).result = .ok ())
      : RunsUntil host rules rules (.ok ())
  | failure {before after : List Rule} {rule : Rule} {e : RunError}
      (hbefore : ∀ earlier ∈ before, (earlier.run host).result = .ok ())
      (hfails : (rule.run host).result = .error e)
      : RunsUntil host (before ++ rule :: after) (before ++ [rule]) (.error e)

theorem RunsUntil.cons {host : Host} {rule : Rule} {rules ran : List Rule} {result : Except RunError Unit}
    (h : RunsUntil host rules ran result) (hrule : (rule.run host).result = .ok ())
    : RunsUntil host (rule :: rules) (rule :: ran) result := by
  cases h with
  | success hall => exact .success (List.forall_mem_cons.2 ⟨hrule, hall⟩)
  | @failure before _ _ _ hbefore hfails =>
    have hall : ∀ earlier ∈ rule :: before, (earlier.run host).result = .ok () :=
      List.forall_mem_cons.2 ⟨hrule, hbefore⟩
    exact RunsUntil.failure hall hfails

theorem runsUntil_cons_iff {host : Host} {rule : Rule} {rules ran : List Rule} {result : Except RunError Unit}
    : RunsUntil host (rule :: rules) ran result
        ↔
      (∃ e, (rule.run host).result = .error e ∧ ran = [rule] ∧ result = .error e)
        ∨ (rule.run host).result = .ok () ∧ ∃ rest, ran = rule :: rest ∧ RunsUntil host rules rest result := by
  constructor
  . intro h
    generalize hall : rule :: rules = all at h
    cases h with
    | success hall' =>
      subst hall
      obtain ⟨hrule, hrules⟩ := List.forall_mem_cons.1 hall'
      exact .inr ⟨hrule, rules, rfl, .success hrules⟩
    | @failure before after failing e hbefore hfails =>
      cases before with
      | nil =>
        obtain ⟨rfl, rfl⟩ := List.cons.inj hall
        exact .inl ⟨e, hfails, rfl, rfl⟩
      | cons =>
        obtain ⟨rfl, rfl⟩ := List.cons.inj hall
        obtain ⟨hrule, hrest⟩ := List.forall_mem_cons.1 hbefore
        exact .inr ⟨hrule, _, rfl, .failure hrest hfails⟩
  . rintro (⟨e, hfails, rfl, rfl⟩ | ⟨hrule, rest, rfl, h⟩)
    . have hnone : ∀ earlier ∈ ([] : List Rule), (earlier.run host).result = .ok () := by simp
      exact .failure hnone hfails
    . exact h.cons hrule

theorem RunsUntil.unique {host : Host} {rules ran ran' : List Rule} {result result' : Except RunError Unit}
    (h : RunsUntil host rules ran result) (h' : RunsUntil host rules ran' result')
    : ran = ran' ∧ result = result' := by
  induction rules generalizing ran ran' with
  | nil =>
    generalize hnil : ([] : List Rule) = none at h h'
    cases h with
    | failure => simp at hnil
    | success =>
      cases h' with
      | failure => simp at hnil
      | success => exact ⟨rfl, rfl⟩
  | cons rule rules ih =>
    rw [runsUntil_cons_iff] at h h'
    obtain ⟨e, hfails, rfl, rfl⟩ | ⟨hrule, rest, rfl, hrest⟩ := h
    . obtain ⟨e', hfails', rfl, rfl⟩ | ⟨hrule', _⟩ := h'
      . rw [hfails] at hfails'
        exact ⟨rfl, hfails'⟩
      . rw [hfails] at hrule'
        contradiction
    . obtain ⟨e', hfails', _⟩ | ⟨_, rest', rfl, hrest'⟩ := h'
      . rw [hrule] at hfails'
        contradiction
      . obtain ⟨rfl, rfl⟩ := ih hrest hrest'
        exact ⟨rfl, rfl⟩

variable (host : Host)

theorem runAll_cons (rule : Rule) (rules : List Rule)
    : runAll host (rule :: rules) = (rule.run host).andThen fun _ => runAll host rules := by
  rw [runAll]
  unfold Run.andThen
  cases (rule.run host).result with
  | error => rfl
  | ok => rfl

theorem runAll_append (rules others : List Rule)
    : runAll host (rules ++ others) = (runAll host rules).andThen fun _ => runAll host others := by
  induction rules with
  | nil => rfl
  | cons rule rules ih =>
    rw [List.cons_append]
    rw [runAll_cons]
    rw [runAll_cons]
    rw [ih]
    rw [Run.andThen_andThen]

theorem enabled_append (rules others : Ruleset)
    : enabled ⟨rules.entries ++ others.entries⟩ = rules.enabled ++ others.enabled := by
  unfold enabled
  rw [List.filter_append]
  rw [List.map_append]

theorem enabled_filter (rules : Ruleset) : enabled ⟨rules.entries.filter Prod.snd⟩ = rules.enabled := by
  unfold enabled
  rw [List.filter_filter]
  simp only [Bool.and_self]

theorem run_append (rules others : Ruleset)
    : run host ⟨rules.entries ++ others.entries⟩ = (rules.run host).andThen fun _ => others.run host := by
  unfold run
  rw [enabled_append]
  rw [runAll_append]

theorem runAll_runsUntil (rules : List Rule)
    : ∃ ran,
        RunsUntil host rules ran (runAll host rules).result
          ∧ (runAll host rules).calls = ran.flatMap fun rule => (rule.run host).calls := by
  induction rules with
  | nil => exact ⟨[], .success (by simp), rfl⟩
  | cons rule rules ih =>
    obtain ⟨ran, hruns, hcalls⟩ := ih
    rw [runAll_cons]
    cases hrule : (rule.run host).result with
    | error e =>
      rw [Run.andThen_of_error hrule]
      have hnone : ∀ earlier ∈ ([] : List Rule), (earlier.run host).result = .ok () := by simp
      exact ⟨[rule], RunsUntil.failure hnone hrule, by simp⟩
    | ok =>
      rw [Run.andThen_of_ok hrule]
      refine ⟨rule :: ran, hruns.cons hrule, ?_⟩
      rw [List.flatMap_cons]
      rw [← hcalls]

theorem issues_runAll_eq_emitted {host : Host} (haccept : ∀ issue, host.accept issue = .ok ())
    (rules : List Rule)
    : (runAll host rules).issues = (runAll host rules).emitted := by
  obtain ⟨ran, _, hcalls⟩ := runAll_runsUntil host rules
  unfold Run.issues Run.emitted
  rw [hcalls]
  rw [List.filterMap_flatMap]
  rw [List.filterMap_flatMap]
  apply List.flatMap_congr
  intro rule _
  exact Rule.issues_run_eq_emitted haccept rule

end Ruleset

namespace Session

/--
Run a dialogue on a session, call by call. A report is among the issues of the session when the next call is made.
-/
def exec (s : Session) : Dialogue Unit → Session × Except RunError Unit
  | .done result => (s, result)
  | .content schema next => s.exec (next (s.module.content schema))
  | .evaluate a next => s.exec (next (a.evalString s.vars.scope))
  | .emit reporter message range next =>
    let report : Report := ⟨reporter, message, range⟩
    exec { s with issues := s.issues ++ [report.issue] } (next (.ok ()))

/--
Run rules on a session, each on what the ones before it left. The first one that fails is the last one that runs.
-/
def execAll (s : Session) : List Rule → Session × Except RunError Unit
  | [] => (s, .ok ())
  | rule :: rules =>
    let (reached, result) := s.exec (rule.check rule.info)
    match result with
    | .error e => (reached, .error e)
    | .ok () => reached.execAll rules

theorem keep_keep (s : Session) (first second : Run Unit)
    : (s.keep first).keep second = s.keep ⟨first.calls ++ second.calls, second.result⟩ := by
  simp [keep, Run.issues]

theorem exec_eq (s : Session) (d : Dialogue Unit)
    : s.exec d = (s.keep (d.run s.host), (d.run s.host).result) := by
  induction d generalizing s with
  | done result => simp [exec, Dialogue.run, keep, Run.issues]
  | content schema next ih => exact ih _ s
  | evaluate a next ih => exact ih _ s
  | emit reporter message range next ih =>
    unfold exec
    dsimp only
    rw [ih]
    let reported : Run Unit := ⟨[.emit (reporter.issue message range) (.ok ())], .ok ()⟩
    change ((s.keep reported).keep ((next (.ok ())).run s.host), _) = _
    rw [keep_keep]
    rfl

theorem execAll_eq (s : Session) (rules : List Rule)
    : s.execAll rules = (s.keep (Ruleset.runAll s.host rules), (Ruleset.runAll s.host rules).result) := by
  induction rules generalizing s with
  | nil => simp [execAll, Ruleset.runAll, keep, Run.issues]
  | cons rule rules ih =>
    have hexec : s.exec (rule.check rule.info) = (s.keep (rule.run s.host), (rule.run s.host).result) :=
      s.exec_eq (rule.check rule.info)
    unfold execAll
    rw [hexec]
    rw [Ruleset.runAll_cons]
    dsimp only
    cases hrule : (rule.run s.host).result with
    | error e =>
      rw [Run.andThen_of_error hrule]
      rfl
    | ok =>
      rw [Run.andThen_of_ok hrule]
      dsimp only
      rw [ih]
      rw [keep_keep]
      rfl

theorem check_runsUntil (s : Session) (rules : Ruleset)
    : ∃ ran,
        Ruleset.RunsUntil s.host rules.enabled ran (s.check rules).2.result
          ∧ (s.check rules).2.emitted = ran.flatMap fun rule => (rule.run s.host).emitted := by
  obtain ⟨ran, hruns, hcalls⟩ := Ruleset.runAll_runsUntil s.host rules.enabled
  refine ⟨ran, hruns, ?_⟩
  change (Ruleset.runAll s.host rules.enabled).calls.filterMap Call.emitted? = _
  rw [hcalls]
  rw [List.filterMap_flatMap]
  rfl

theorem check_fst (s : Session) (rules : Ruleset)
    : (s.check rules).1 = { s with issues := s.issues ++ (s.check rules).2.emitted } := by
  have hissues : (s.check rules).2.issues = (s.check rules).2.emitted :=
    Ruleset.issues_runAll_eq_emitted (fun _ => rfl) rules.enabled
  rw [← hissues]
  rfl

theorem check_append_of_error {s : Session} {rules : Ruleset} {e : RunError}
    (h : (s.check rules).2.result = .error e) (others : Ruleset)
    : s.check ⟨rules.entries ++ others.entries⟩ = s.check rules := by
  change (rules.run s.host).result = .error e at h
  have hrun : Ruleset.run s.host ⟨rules.entries ++ others.entries⟩ = rules.run s.host := by
    rw [Ruleset.run_append]
    rw [Run.andThen_of_error h]
    rw [← h]
  unfold check
  rw [hrun]

theorem check_append_of_ok {s : Session} {rules : Ruleset} (h : (s.check rules).2.result = .ok ())
    (others : Ruleset)
    : (s.check ⟨rules.entries ++ others.entries⟩).1 = ((s.check rules).1.check others).1
        ∧ (s.check ⟨rules.entries ++ others.entries⟩).2.result = ((s.check rules).1.check others).2.result := by
  change (rules.run s.host).result = .ok () at h
  have hrun : Ruleset.run s.host ⟨rules.entries ++ others.entries⟩
      = ⟨(rules.run s.host).calls ++ (others.run s.host).calls, (others.run s.host).result⟩ := by
    rw [Ruleset.run_append]
    rw [Run.andThen_of_ok h]
  unfold check
  rw [hrun]
  exact ⟨(keep_keep s _ _).symm, rfl⟩

theorem check_filter_enabled (s : Session) (rules : Ruleset)
    : s.check ⟨rules.entries.filter Prod.snd⟩ = s.check rules := by
  unfold check Ruleset.run
  rw [Ruleset.enabled_filter]

/--
The issues of a check are added to those that are there: what the rules report that are switched on, in turn, up to
and including the first rule that fails, whose error is the result. Every issue has the name and the severity of the
rule in whose name it is reported. It is the same to run these rules call by call. Rules that are switched off may
as well be absent. Rulesets that are put together are checked in turn, the second one if the first one succeeds.
-/
theorem check_in_turn (s : Session) (rules others : Ruleset)
    : let (after, run) := s.check rules
      let enabled := (rules.entries.filter Prod.snd).map Prod.fst
      (∃ ran,
          Ruleset.RunsUntil s.host enabled ran run.result
            ∧ after = { s with issues := s.issues ++ ran.flatMap fun rule => (rule.run s.host).emitted }
            ∧ ∀ rule ∈ ran,
                (rule.run s.host).emitted = (rule.reports s.host).map Report.issue
                  ∧ (rule.check.ReportsOwn rule.info
                      → ∀ issue ∈ (rule.run s.host).emitted,
                          issue.rule = rule.info.name ∧ issue.severity = rule.info.severity))
        ∧ s.execAll enabled = (after, run.result)
        ∧ s.check ⟨rules.entries.filter Prod.snd⟩ = (after, run)
        ∧ (∀ e, run.result = .error e → s.check ⟨rules.entries ++ others.entries⟩ = (after, run))
        ∧ (run.result = .ok ()
            → (s.check ⟨rules.entries ++ others.entries⟩).1 = (after.check others).1
              ∧ (s.check ⟨rules.entries ++ others.entries⟩).2.result = (after.check others).2.result) := by
  dsimp only
  refine ⟨?_, execAll_eq s rules.enabled, check_filter_enabled s rules, ?_, ?_⟩
  . obtain ⟨ran, hruns, hemitted⟩ := check_runsUntil s rules
    refine ⟨ran, hruns, ?_, ?_⟩
    . rw [check_fst]
      rw [hemitted]
    . intro rule _
      exact ⟨rule.emitted_run s.host, fun hown => Rule.info_of_mem_emitted hown s.host⟩
  . intro e he
    exact check_append_of_error he others
  . intro hok
    exact check_append_of_ok hok others

def namedRule (name : String) (severity : Severity) (check : Program Unit) : Rule :=
  ⟨⟨name, true, severity, ""⟩, check⟩

def praise : Rule := namedRule "praise" .notice (Program.report "well done" .nowhere)

/--
A rule that reports and then fails on a module without files.
-/
def demand : Rule := namedRule "demand" .warning do
  Program.report "no owner" .nowhere
  let _ ← Program.getContent (.ofRequired "owner")

def partlyEnabled : Ruleset := ⟨[(praise, true), (BackendType.rule, false), (demand, true)]⟩

theorem check_in_turn_partly_enabled
    : let s := start ⟨[]⟩ default
      let failed : RunError := .missingAttribute "owner" .nowhere
      (s.check partlyEnabled).1.issues
            = [⟨"praise", .notice, "well done", .nowhere⟩, ⟨"demand", .warning, "no owner", .nowhere⟩]
        ∧ (s.check partlyEnabled).2.result = .error failed
        ∧ s.check ⟨[(praise, true), (demand, true)]⟩ = s.check partlyEnabled
        ∧ s.check ⟨partlyEnabled.entries ++ [(praise, true)]⟩ = s.check partlyEnabled := by
  intro s failed
  obtain ⟨⟨ran, hruns, hafter, _⟩, _, hfiltered, hfails, _⟩ := check_in_turn s partlyEnabled ⟨[(praise, true)]⟩
  have hbefore : ∀ earlier ∈ [praise], (earlier.run s.host).result = .ok () := List.forall_mem_singleton.2 rfl
  have hdemand : (demand.run s.host).result = .error failed := by rfl
  obtain ⟨rfl, hresult⟩ := hruns.unique (.failure hbefore hdemand)
  exact ⟨congrArg issues hafter, hresult, hfiltered, hfails failed hresult⟩

end Session

end BackendPolicy
