import BackendPolicy.Body.Content
import BackendPolicy.Expr.Eval

/-!
This module contains the input variables of a module and the evaluation of attributes under them.
Expressions see all variables as the fields of one object, `var`.
-/

namespace BackendPolicy

abbrev Variables := Dict Value

namespace Variables

def setTexts (vars : Variables) (texts : List (String × String)) : Variables :=
  vars.insertMany (texts.map fun (name, text) => (name, .string text))

def value (vars : Variables) : Value :=
  .object vars.entries

def scope (vars : Variables) : Scope :=
  [("var", vars.value)]

end Variables

/--
The text of a value where a string is asked for: strings as they are, numbers and booleans written out.
-/
def Value.asString : Value → Except Unsuitable String
  | .string s => .ok s
  | .number n => .ok n.text
  | .bool b => .ok (if b then "true" else "false")
  | .null => .error .null
  | .array _ => .error .list
  | .object _ => .error .object

namespace Attribute

def eval (a : Attribute) (scope : Scope) : Except RunError Value :=
  match a.value.eval scope with
  | .ok v => .ok v
  | .error e => .error (.evaluation a.valueRange e)

def evalString (a : Attribute) (scope : Scope) : Except RunError String := do
  match (← a.eval scope).asString with
  | .ok s => return s
  | .error reason => throw (.unsuitable a.valueRange reason)

end Attribute

end BackendPolicy
