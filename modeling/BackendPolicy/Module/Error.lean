import BackendPolicy.Expr.Error
import BackendPolicy.Files.Access
import BackendPolicy.Hcl.Structure

/-!
This module contains the failures of a run. They are not violations: a run that fails has no verdict.
-/

namespace BackendPolicy

inductive Unsuitable where
  | null
  | list
  | object
deriving DecidableEq, Repr, Inhabited

def Unsuitable.message : Unsuitable → String
  | null => "null value cannot be used as a string"
  | list => "a list is not a string"
  | object => "an object is not a string"

inductive RunError where
  | unreadable (path : String) (cause : FileFault)
  | unlistable (path : String) (cause : FileFault)
  | unparsable (filename : String) (error : Hcl.ParseError)
  | labelCount (kind : String) (expected : List String) (found : Nat) (range : Range)
  | missingAttribute (name : String) (range : Range)
  | evaluation (range : Range) (error : EvalError)
  | unsuitable (range : Range) (reason : Unsuitable)

namespace RunError

def message : RunError → String
  | unreadable path _ => s!"failed to read {path}"
  | unlistable _ _ => "failed to list module directory"
  | unparsable filename error => s!"{filename}:{error.line}:{error.column}: {error.fault.message}"
  | labelCount kind expected found range =>
    s!"{range.display}: {kind} blocks must have {expected.length} label(s) "
      ++ "(" ++ String.intercalate ", " expected ++ s!"), found {found}"
  | missingAttribute name range =>
    s!"{range.display}: the attribute \"{name}\" is required, but no definition was found"
  | evaluation range _ => s!"{range.display}: failed to evaluate expression"
  | unsuitable range reason => s!"{range.display}: unsuitable value: {reason.message}"

/--
The wordings of what led to a failure, from the nearest cause to the first one.
-/
def causes : RunError → List String
  | unreadable _ cause => [cause.message]
  | unlistable path cause => [s!"IO error for operation on {path}: {cause.message}", cause.message]
  | evaluation _ error => [error.message]
  | _ => []

end RunError

end BackendPolicy
