import BackendPolicy.Rule.Session

/-!
This module contains the check of a module: its variables are settled, then the rules run on it.
-/

namespace BackendPolicy.Module

/--
The variables that a check uses: the defaults of the module, over them the texts of the configuration and
over those the values that were given for this check.
-/
def variablesFor (m : Module) (config : Config) (given : List (String × Value)) :
    Except RunError Variables := do
  return ((← m.defaults).setTexts config.vars.entries).insertMany given

def check (m : Module) (rules : Ruleset) (config : Config) (given : List (String × Value)) :
    Except RunError (List Issue) := do
  let vars ← m.variablesFor config given
  let (session, run) := (Session.start m vars).check rules
  run.result
  return session.issues

end BackendPolicy.Module
