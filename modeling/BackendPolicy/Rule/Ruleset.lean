import BackendPolicy.Config.Basic
import BackendPolicy.Rule.BackendType
import BackendPolicy.Text.Escaped

/-!
This module contains rulesets: rules in the order in which they run, each of them switched on or off.
-/

namespace BackendPolicy

structure Ruleset where
  entries : List (Rule × Bool)

namespace Ruleset

def ofRules (rules : List Rule) : Ruleset :=
  ⟨rules.map fun rule => (rule, rule.info.enabled)⟩

def builtin : Ruleset := ofRules [BackendType.rule]

structure UnknownRule where
  name : String
deriving DecidableEq, Repr

def UnknownRule.message (e : UnknownRule) : String :=
  s!"unknown rule '{e.name}' in configuration"

def hasRule (rules : Ruleset) (name : String) : Bool :=
  rules.entries.any fun entry => entry.1.info.name = name

/--
Switch the rules that a configuration names on or off. If it names a rule that does not exist, the first
such name is reported and nothing changes.
-/
def applyConfig (rules : Ruleset) (config : Config) : Except UnknownRule Ruleset :=
  match config.rules.names.find? fun name => !rules.hasRule name with
  | some name => .error ⟨name⟩
  | none =>
    .ok ⟨rules.entries.map fun (rule, enabled) =>
      (rule, (config.ruleEnabled? rule.info.name).getD enabled)⟩

def requireRule (name : String) : ExceptT UnknownRule (StateM Ruleset) Unit := do
  if !(← get).hasRule name then
    throw ⟨name⟩

def switched (config : Config) (entry : Rule × Bool) : Rule × Bool :=
  match config.ruleEnabled? entry.1.info.name with
  | some enabled => (entry.1, enabled)
  | none => entry

/--
Apply a configuration to a ruleset in place. All names are looked up before a rule is switched.
-/
def configure (config : Config) : ExceptT UnknownRule (StateM Ruleset) Unit := do
  config.rules.names.forM requireRule
  modify fun rules => ⟨rules.entries.map (switched config)⟩

def enabled (rules : Ruleset) : List Rule :=
  (rules.entries.filter Prod.snd).map Prod.fst

def display (rules : Ruleset) : String :=
  let texts := rules.entries.map fun (rule, enabled) =>
    "(" ++ quoteDisplayed rule.info.name ++ (if enabled then ", true)" else ", false)")
  "[" ++ String.intercalate ", " texts ++ "]"

/--
Run rules one after the other. The first one that fails is the last one that runs.
-/
def runAll (host : Host) : List Rule → Run Unit
  | [] => ⟨[], .ok ()⟩
  | rule :: rules =>
    let first := rule.run host
    match first.result with
    | .error e => ⟨first.calls, .error e⟩
    | .ok () =>
      let others := runAll host rules
      ⟨first.calls ++ others.calls, others.result⟩

def run (host : Host) (rules : Ruleset) : Run Unit :=
  runAll host rules.enabled

end Ruleset

end BackendPolicy
