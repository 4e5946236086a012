import BackendPolicy.Proofs.Rule.Requirements
import BackendPolicy.Rule.Session

/-!
This module contains what sessions make of the rule: a session accepts every report, so what the rule reports
is what a check yields.
-/

namespace BackendPolicy

theorem Dialogue.issues_run_eq_emitted {host : Host} (haccept : ∀ issue, host.accept issue = .ok ())
    (d : Dialogue α)
    : (d.run host).issues = (d.run host).emitted := by
  induction d with
  | done result => rfl
  | content schema next ih => exact ih (host.content schema)
  | evaluate a next ih => exact ih (host.evaluate a)
  | emit reporter message range next ih =>
    unfold run
    dsimp only
    rw [haccept]
    have hrest := ih (.ok ())
    unfold Run.issues Run.emitted at hrest ⊢
    exact congrArg (reporter.issue message range :: ·) hrest

theorem Rule.issues_run_eq_emitted {host : Host} (haccept : ∀ issue, host.accept issue = .ok ()) (rule : Rule)
    : (rule.run host).issues = (rule.run host).emitted :=
  Dialogue.issues_run_eq_emitted haccept (rule.check rule.info)

namespace Ruleset

theorem runAll_singleton (host : Host) (rule : Rule) : runAll host [rule] = rule.run host := by
  unfold runAll
  cases hresult : (rule.run host).result with
  | error e =>
    simp only [hresult]
    rw [← hresult]
  | ok =>
    simp only [hresult, runAll, List.append_nil]
    rw [← hresult]

/--
The rule on state backends is the only one that comes with the program. It is switched on unless the
configuration switches it off.
-/
theorem enabled_of_applyConfig {config : Config} {rules : Ruleset}
    (h : builtin.applyConfig config = .ok rules)
    : rules.enabled
        =
      if (config.ruleEnabled? "terraform_backend_type").getD true then [BackendType.rule] else [] := by
  unfold applyConfig at h
  split at h
  . contradiction
  . simp only [Except.ok.injEq] at h
    subst h
    change ((([(BackendType.rule, (config.ruleEnabled? "terraform_backend_type").getD true)]).filter
      Prod.snd).map Prod.fst) = _
    cases (config.ruleEnabled? "terraform_backend_type").getD true <;> rfl

theorem enabled_eq_rule {config : Config} {rules : Ruleset} (h : builtin.applyConfig config = .ok rules)
    (henabled : config.ruleEnabled? "terraform_backend_type" ≠ some false)
    : rules.enabled = [BackendType.rule] := by
  rw [enabled_of_applyConfig h]
  cases hrule : config.ruleEnabled? "terraform_backend_type" with
  | none => rfl
  | some enabled =>
    cases enabled with
    | true => rfl
    | false => contradiction

end Ruleset

namespace BackendType

/--
What a check yields for the first shortfall: an error for a failure and an issue for a violation.
-/
def reported : Option Shortfall → Except RunError (List Issue)
  | none => .ok []
  | some (.failure e) => .error e
  | some (.violation message range) => .ok [⟨"terraform_backend_type", .error, message, range⟩]

theorem reported_eq_ok_nil_iff {shortfall : Option Shortfall}
    : reported shortfall = .ok [] ↔ shortfall = none := by
  rcases shortfall with _ | _ | _ <;> simp [reported]

theorem reported_cases (shortfall : Option Shortfall)
    : (∃ e, reported shortfall = .error e)
        ∨ reported shortfall = .ok []
        ∨ ∃ issue, reported shortfall = .ok [issue] := by
  rcases shortfall with _ | _ | _ <;> simp [reported]

theorem reported_of_settles {host : Host} {r : Run Unit} {shortfall : Option Shortfall}
    (haccept : ∀ issue, host.accept issue = .ok ()) (h : Settles host r shortfall)
    : (r.result >>= fun _ => .ok r.emitted) = reported shortfall := by
  cases shortfall with
  | none =>
    rw [h.1]
    rw [h.2]
    rfl
  | some shortfall =>
    cases shortfall with
    | failure e =>
      rw [h.2]
      rfl
    | violation message range =>
      rw [h.1]
      rw [h.2]
      rw [haccept]
      rfl

end BackendType

end BackendPolicy
