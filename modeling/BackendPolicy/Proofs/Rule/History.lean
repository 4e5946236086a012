import BackendPolicy.Proofs.Rule.Ruleset

/-!
This module contains the histories of sessions: what is asked of a session and reported to it, one operation
after the other. The main statement is `history_conserves`: every issue that is reported is taken once or is still
there at the end, and what came before makes no difference to a check.
-/

namespace BackendPolicy.Session

inductive Operation where
  | emit (info : RuleInfo) (message : String) (range : Range)
  | content (schema : BodySchema)
  | evaluate (a : Attribute)
  | check (rules : Ruleset)
  | issues
  | takeIssues

def Operation.Asks : Operation → Prop
  | .content _ => True
  | .evaluate _ => True
  | .issues => True
  | _ => False

inductive Answer where
  | done (result : Except RunError Unit)
  | content (result : Except RunError BodyContent)
  | text (result : Except RunError String)
  | issues (found : List Issue)
  | taken (found : List Issue)

def Answer.takenIssues : Answer → List Issue
  | .taken found => found
  | _ => []

def perform (s : Session) : Operation → Session × Answer
  | .emit info message range =>
    let (left, result) := s.emit info message range
    (left, .done result)
  | .content schema => (s, .content (s.host.content schema))
  | .evaluate a => (s, .text (s.host.evaluate a))
  | .check rules =>
    let (left, run) := s.check rules
    (left, .done run.result)
  | .issues => (s, .issues s.issues)
  | .takeIssues =>
    let (left, found) := s.takeIssues
    (left, .taken found)

def performAll (s : Session) : List Operation → Session × List Answer
  | [] => (s, [])
  | operation :: history =>
    let (next, answer) := s.perform operation
    let (last, answers) := next.performAll history
    (last, answer :: answers)

def reportedBy (s : Session) : Operation → List Issue
  | .emit info message range => [info.issue message range]
  | .check rules => (s.check rules).2.emitted
  | _ => []

def reportedIn (s : Session) : List Operation → List Issue
  | [] => []
  | operation :: history => s.reportedBy operation ++ (s.perform operation).1.reportedIn history

theorem perform_conserves (s : Session) (operation : Operation)
    : (s.perform operation).2.takenIssues ++ (s.perform operation).1.issues
        =
      s.issues ++ s.reportedBy operation := by
  cases operation with
  | emit info message range => rfl
  | content schema => exact (List.append_nil _).symm
  | evaluate a => exact (List.append_nil _).symm
  | check rules =>
    change (s.check rules).1.issues = _
    rw [check_fst]
    rfl
  | issues => exact (List.append_nil _).symm
  | takeIssues => rfl

theorem performAll_conserves (s : Session) (history : List Operation)
    : (s.performAll history).2.flatMap Answer.takenIssues ++ (s.performAll history).1.issues
        =
      s.issues ++ s.reportedIn history := by
  induction history generalizing s with
  | nil => exact (List.append_nil _).symm
  | cons operation history ih =>
    unfold performAll reportedIn
    dsimp only
    rw [List.flatMap_cons]
    rw [List.append_assoc]
    rw [ih]
    rw [← List.append_assoc]
    rw [perform_conserves]
    rw [List.append_assoc]

theorem host_perform (s : Session) (operation : Operation) : (s.perform operation).1.host = s.host := by
  cases operation with
  | emit => rfl
  | content => rfl
  | evaluate => rfl
  | check => rfl
  | issues => rfl
  | takeIssues => rfl

theorem host_performAll (s : Session) (history : List Operation) : (s.performAll history).1.host = s.host := by
  induction history generalizing s with
  | nil => rfl
  | cons operation history ih =>
    unfold performAll
    dsimp only
    rw [ih]
    rw [host_perform]

theorem check_congr {s t : Session} (h : t.host = s.host) (rules : Ruleset)
    : (t.check rules).2 = (s.check rules).2 := by
  unfold check
  rw [h]

theorem perform_check (s : Session) (rules : Ruleset)
    : s.perform (.check rules)
        =
      ({ s with issues := s.issues ++ s.reportedBy (.check rules) }, .done (s.check rules).2.result) := by
  unfold perform
  dsimp only
  rw [check_fst]
  rfl

theorem issues_performAll_replicate_check (s : Session) (rules : Ruleset) (n : Nat)
    : (s.performAll (List.replicate n (.check rules))).1.issues
        =
      s.issues ++ (List.replicate n (s.reportedBy (.check rules))).flatten := by
  induction n generalizing s with
  | zero => exact (List.append_nil _).symm
  | succ n ih =>
    have hsame : (s.perform (.check rules)).1.reportedBy (.check rules) = s.reportedBy (.check rules) :=
      congrArg Run.emitted (check_congr (host_perform s _) rules)
    rw [List.replicate_succ]
    unfold performAll
    dsimp only
    rw [ih]
    rw [hsame]
    rw [perform_check]
    rw [List.replicate_succ]
    rw [List.flatten_cons]
    rw [List.append_assoc]

/--
In every history of a session, the issues that are taken and then those that are left are those that were there
and then those that are reported, in order. Asking changes nothing. A check has the same result and adds the same
issues after every history, so checks in a row add them as many times.
-/
theorem history_conserves (s : Session)
    : (∀ history,
          let (last, answers) := s.performAll history
          answers.flatMap Answer.takenIssues ++ last.issues = s.issues ++ s.reportedIn history)
        ∧ (∀ history operation,
            operation.Asks
              → let (last, _) := s.performAll history
                (last.perform operation).1 = last)
        ∧ ∀ rules, ∃ result added,
            (∀ history,
                let (last, _) := s.performAll history
                last.perform (.check rules) = ({ last with issues := last.issues ++ added }, .done result)
                  ∧ last.reportedBy (.check rules) = added)
              ∧ ∀ n,
                  (s.performAll (List.replicate n (.check rules))).1.issues
                    = s.issues ++ (List.replicate n added).flatten := by
  refine ⟨s.performAll_conserves, ?_, ?_⟩
  . intro history operation hasks
    cases operation with
    | content => rfl
    | evaluate => rfl
    | issues => rfl
    | _ => contradiction
  . intro rules
    refine ⟨(s.check rules).2.result, s.reportedBy (.check rules), ?_, ?_⟩
    . intro history
      have hcheck := check_congr (s.host_performAll history) rules
      have hsame : (s.performAll history).1.reportedBy (.check rules) = s.reportedBy (.check rules) :=
        congrArg Run.emitted hcheck
      dsimp only
      rw [perform_check]
      rw [hsame]
      rw [hcheck]
      exact ⟨rfl, rfl⟩
    . exact s.issues_performAll_replicate_check rules

end BackendPolicy.Session
