import BackendPolicy.Rule.Ruleset

/-!
This module contains sessions: a module under given variables, with the issues that were reported so far.
-/

namespace BackendPolicy

structure Session where
  module : Module
  vars : Variables
  issues : List Issue

namespace Session

def start (m : Module) (vars : Variables) : Session := ⟨m, vars, []⟩

def ofModule (m : Module) : Except RunError Session := do
  return start m (← m.defaults)

/--
A module under given variables as the host of rules. It accepts every issue.
-/
def host (s : Session) : Host where
  content schema := s.module.content schema
  evaluate a := a.evalString s.vars.scope
  accept _ := .ok ()

def keep (s : Session) (r : Run Unit) : Session :=
  { s with issues := s.issues ++ r.issues }

/--
Run a ruleset. The issues that are reported before a failure stay.
-/
def check (s : Session) (rules : Ruleset) : Session × Run Unit :=
  let r := rules.run s.host
  (s.keep r, r)

/--
Run one rule, whether it is switched on or not.
-/
def checkRule (s : Session) (rule : Rule) : Session × Run Unit :=
  let r := rule.run s.host
  (s.keep r, r)

def emit (s : Session) (info : RuleInfo) (message : String) (range : Range) : Session × Except RunError Unit :=
  let r := (Program.report message range).run s.host info
  (s.keep r, r.result)

def takeIssues (s : Session) : Session × List Issue :=
  ({ s with issues := [] }, s.issues)

end Session

end BackendPolicy
