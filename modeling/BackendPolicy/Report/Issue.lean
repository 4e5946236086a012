import BackendPolicy.Data.Json
import BackendPolicy.Source.Position
import BackendPolicy.Text.Path

/-!
This module contains issues, the violations that rules report, with their severities and their written
forms.
-/

namespace BackendPolicy

inductive Severity where
  | error
  | warning
  | notice
deriving DecidableEq, Repr, Inhabited

namespace Severity

def all : List Severity := [error, warning, notice]

def display : Severity → String
  | error => "error"
  | warning => "warning"
  | notice => "notice"

def rank : Severity → Nat
  | error => 0
  | warning => 1
  | notice => 2

instance : LE Severity := ⟨fun a b => a.rank ≤ b.rank⟩

instance (a b : Severity) : Decidable (a ≤ b) := inferInstanceAs (Decidable (a.rank ≤ b.rank))

instance : Min Severity := ⟨fun a b => if a ≤ b then a else b⟩

def ofName? (name : String) : Option Severity :=
  all.find? fun s => s.display = name

inductive ReadError where
  | unknownName (name : String)
  | notAName (found : Json)
  | notOneField
  | notEmpty (found : Json)

def ReadError.message : ReadError → String
  | unknownName name =>
    s!"unknown variant `{name}`, expected one of `error`, `warning`, `notice`"
  | notAName found => s!"invalid type: {found.describe}, expected string or map"
  | notOneField => "invalid value: map, expected map with a single key"
  | notEmpty found => s!"invalid type: {found.describe}, expected unit"

/--
Turn a document into a severity: its name, or an object with its name as the only key and null as value.
-/
def ofJson : Json → Except ReadError Severity
  | .string name =>
    match ofName? name with
    | some s => .ok s
    | none => .error (.unknownName name)
  | .object [(name, value)] =>
    match ofName? name, value with
    | none, _ => .error (.unknownName name)
    | some s, .null => .ok s
    | some _, value => .error (.notEmpty value)
  | .object _ => .error .notOneField
  | found => .error (.notAName found)

end Severity

structure Issue where
  rule : String
  severity : Severity
  message : String
  range : Range
deriving DecidableEq, Repr, Inhabited

namespace Issue

def location (i : Issue) : String :=
  s!"{i.range.filename}:{i.range.start.line}:{i.range.start.column}"

def display (i : Issue) : String :=
  s!"{i.location}: {i.severity.display}: {i.message} ({i.rule})"

/--
Whether two issues are the same. File names are compared as paths.
-/
def same (i j : Issue) : Bool :=
  i.rule = j.rule && i.severity = j.severity && i.message = j.message
    && Path.same i.range.filename j.range.filename
    && i.range.start = j.range.start && i.range.stop = j.range.stop

def worst? (issues : List Issue) : Option Severity :=
  (issues.map Issue.severity).min?

def bySeverity (issues : List Issue) : List (Severity × List Issue) :=
  (Severity.all.map fun s => (s, issues.filter fun i => i.severity = s)).filter fun group => group.2 ≠ []

end Issue

def Pos.toJson (p : Pos) : Json :=
  .object [("line", .integer p.line), ("column", .integer p.column), ("byte", .integer p.byte)]

def Range.toJson (r : Range) : Json :=
  .object [("filename", .string r.filename), ("start", r.start.toJson), ("end", r.stop.toJson)]

def Issue.toJson (i : Issue) : Json :=
  .object [
    ("rule", .string i.rule),
    ("severity", .string i.severity.display),
    ("message", .string i.message),
    ("range", i.range.toJson)]

end BackendPolicy
