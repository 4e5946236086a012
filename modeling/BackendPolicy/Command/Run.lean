import BackendPolicy.Command.Arguments
import BackendPolicy.Command.Report
import BackendPolicy.Config.Load
import BackendPolicy.Module.Load
import BackendPolicy.Rule.Check

/-!
This module contains the commands. `run` takes arguments and answers with what the program writes and the
code that it ends with.
-/

namespace BackendPolicy.Command

structure Outcome where
  code : Nat
  output : String
  errors : String
deriving DecidableEq, Repr, Inhabited

def versionText : String := writeLines ["terraform-backend-lint 0.1.0"]

def helpText : String := writeLines [
  "Lint rule enforcing an HTTP state backend with POST/DELETE locking",
  "",
  "Usage: backend-lint [OPTIONS] [COMMAND]",
  "",
  "Commands:",
  "  check  Check the module for policy violations (default)",
  "  rules  List the available rules and whether they are enabled",
  "  help   Print this message",
  "",
  "Options:",
  "  -v, --verbose...   Verbosity (-v, -vv, -vvv)",
  "  -C, --chdir <ROOT> The module directory to check [default: .]",
  "  -h, --help         Print help",
  "  -V, --version      Print version",
  "",
  "Options of check and rules:",
  "      --config <FILE>  Configuration file (defaults to `.backend-lint.toml` in the root)",
  "",
  "Options of check:",
  "      --format <FORMAT>   Output format (overrides the configuration file) [table, json]",
  "      --var <NAME=VALUE>  Set an input variable (can be specified multiple times)",
  "  -q, --quiet             Suppress all output except errors"]

section

variable {m : Type → Type} [Monad m]

def orFail (failure : ε → Failure) (action : ExceptT ε m α) : ExceptT Failure m α :=
  ExceptT.mk (Except.mapError failure <$> action.run)

def loadConfig (files : FileAccess m) (root : String) (path : Option String) : ExceptT Failure m Config :=
  match path with
  | some path =>
    orFail (fun e => (Failure.ofConfigError e).during s!"failed to load {path}") (Config.load files path)
  | none => orFail .ofConfigError (Config.loadFor files root)

def configuredRules (config : Config) : ExceptT Failure m Ruleset :=
  MonadExcept.ofExcept ((Ruleset.builtin.applyConfig config).mapError .ofUnknownRule)

/--
The report of a check. A quiet check writes no table.
-/
def checkReport (coloured quiet : Bool) (format : Format) (issues : List Issue) : String :=
  match format with
  | .table => if quiet then "" else tableReport coloured issues
  | .json => jsonReport issues

def runCheck (files : FileAccess m) (coloured : Bool) (root : String) (given : Given) :
    ExceptT Failure m Outcome := do
  let config ← loadConfig files root given.config
  let rules ← configuredRules config
  let module ← orFail (fun e => (Failure.ofRunError e).during s!"failed to load module in {root}")
    (Module.load files root)
  let vars := given.vars.map fun (name, text) => (name, Value.string text)
  let issues ← MonadExcept.ofExcept ((module.check rules config vars).mapError .ofRunError)
  let report := checkReport coloured given.quiet (given.format.getD config.format) issues
  return ⟨if issues.isEmpty then 0 else 2, report, ""⟩

def runRules (files : FileAccess m) (coloured : Bool) (root : String) (path : Option String) :
    ExceptT Failure m Outcome := do
  let config ← loadConfig files root path
  let rules ← configuredRules config
  return ⟨0, rulesReport coloured rules, ""⟩

def Outcome.ofResult : Except Failure Outcome → Outcome
  | .ok outcome => outcome
  | .error f => ⟨1, "", f.report⟩

/--
Run the program. Arguments that are not accepted end with code 2.
-/
def run (files : FileAccess m) (coloured : Bool) (arguments : List String) : m Outcome :=
  match Request.ofArguments arguments with
  | .error e => return ⟨2, "", writeLines [s!"error: {e.message}"]⟩
  | .ok .help => return ⟨0, helpText, ""⟩
  | .ok .version => return ⟨0, versionText, ""⟩
  | .ok (.check root given) => Outcome.ofResult <$> (runCheck files coloured root given).run
  | .ok (.rules root path) => Outcome.ofResult <$> (runRules files coloured root path).run

end

end BackendPolicy.Command
