import BackendPolicy.Command.Ink
import BackendPolicy.Config.Load
import BackendPolicy.Module.Error
import BackendPolicy.Rule.Ruleset

/-!
This module contains the reports of the commands: issues as a table or as a document, the list of rules, and
the report of a failure.
-/

namespace BackendPolicy.Command

def writeLines (lines : List String) : String :=
  String.join (lines.map (· ++ "\n"))

def issueLine (coloured : Bool) (i : Issue) : String :=
  let severity := paint coloured (.severity i.severity) i.severity.display
  let rule := paint coloured .dim s!"({i.rule})"
  s!"{i.location}: {severity}: {i.message} {rule}"

/--
The lines that close a table. They have the colour of the most severe issue.
-/
def summaryLines (coloured : Bool) (issues : List Issue) : List String :=
  match Issue.worst? issues with
  | none => [paint coloured .success "✅ No issues found."]
  | some worst => ["", paint coloured (.severity worst) s!"⚠️  {issues.length} issue(s) found"]

def tableReport (coloured : Bool) (issues : List Issue) : String :=
  writeLines (issues.map (issueLine coloured) ++ summaryLines coloured issues)

def jsonReport (issues : List Issue) : String :=
  writeLines [(Json.object [("issues", .array (issues.map Issue.toJson))]).pretty]

def ruleLine (coloured : Bool) (info : RuleInfo) (enabled : Bool) : String :=
  let state := if enabled then paint coloured .success "enabled" else paint coloured .dim "disabled"
  let link := if info.link.isEmpty then "" else " " ++ paint coloured .dim info.link
  s!"{info.name} ({state}, {info.severity.display}){link}"

def rulesReport (coloured : Bool) (rules : Ruleset) : String :=
  writeLines (rules.entries.map fun (rule, enabled) => ruleLine coloured rule.info enabled)

/--
A failure of a command with what led to it, from the nearest cause to the first one.
-/
structure Failure where
  message : String
  causes : List String
deriving DecidableEq, Repr

namespace Failure

def ofConfigError (e : ConfigError) : Failure := ⟨e.message, [e.cause]⟩

def ofUnknownRule (e : Ruleset.UnknownRule) : Failure := ⟨e.message, []⟩

def ofRunError (e : RunError) : Failure := ⟨e.message, e.causes⟩

def during (attempt : String) (f : Failure) : Failure := ⟨attempt, f.message :: f.causes⟩

def numbered (n : Nat) : String :=
  let digits := toString n
  String.ofList (List.replicate (5 - digits.length) ' ') ++ digits ++ ": "

/--
Write a cause behind a mark. Its further lines are indented as far as the mark is wide.
-/
def causeText (mark : String) (cause : String) : String :=
  let indent := String.ofList (List.replicate mark.length ' ')
  mark ++ String.intercalate ("\n" ++ indent) (cause.splitOn "\n")

/--
The causes of a failure, each on a line of its own. They are numbered if there is more than one.
-/
def causeLines (causes : List String) : List String :=
  match causes with
  | [cause] => [causeText "    " cause]
  | causes => causes.mapIdx fun n cause => causeText (numbered n) cause

def report (f : Failure) : String :=
  let title := s!"Error: {f.message}"
  if f.causes.isEmpty then
    writeLines [title]
  else
    writeLines (title :: "" :: "Caused by:" :: causeLines f.causes)

end Failure

end BackendPolicy.Command
