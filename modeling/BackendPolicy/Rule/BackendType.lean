import BackendPolicy.Rule.Program

/-!
This module contains the rule on state backends: the backend of a module is of type `http`, locks the state
with `POST` and unlocks it with `DELETE`. Only the first violation is reported.
-/

namespace BackendPolicy.BackendType

def requiredType : String := "http"

structure MethodPolicy where
  key : String
  verb : String
deriving DecidableEq, Repr, Inhabited

def lockPolicy : MethodPolicy := ⟨"lock_method", "POST"⟩

def unlockPolicy : MethodPolicy := ⟨"unlock_method", "DELETE"⟩

def policies : List MethodPolicy := [lockPolicy, unlockPolicy]

inductive Violation where
  | wrongType (found : String)
  | missing (policy : MethodPolicy)
  | wrongVerb (policy : MethodPolicy)
deriving DecidableEq, Repr

def Violation.message : Violation → String
  | wrongType found => s!"backend type must be '{requiredType}', but found '{found}'"
  | missing policy => s!"\"{policy.key}\" attribute is required"
  | wrongVerb policy => s!"\"{policy.key}\" must be \"{policy.verb}\""

def schema : BodySchema :=
  .ofBlock {
    kind := "terraform"
    body := some <| .ofBlock {
      kind := "backend"
      labelNames := ["type"]
      body := some (.ofAttributes ["address", "lock_method", "unlock_method"]) } }

/--
The type of a backend, which is its only label.
-/
def typeOf (backend : Block) : String :=
  backend.labels.headD ""

def firstMethodViolation (backend : Block) : List MethodPolicy → Program (Option (Violation × Range))
  | [] => return none
  | policy :: policies =>
    match backend.body.attributes.get? policy.key with
    | none => return some (.missing policy, backend.headRange)
    | some found => do
      let verb ← Program.getString found
      if verb = policy.verb then
        firstMethodViolation backend policies
      else
        return some (.wrongVerb policy, found.range)

/--
The first violation of a backend, with its place. A method is only evaluated if all before it is in order.
-/
def firstViolation (backend : Block) : Program (Option (Violation × Range)) :=
  if typeOf backend = requiredType then
    firstMethodViolation backend policies
  else
    return some (.wrongType (typeOf backend), backend.headRange)

def checkAll : List Block → Program Unit
  | [] => return
  | backend :: backends => do
    match ← firstViolation backend with
    | some (violation, range) => Program.report violation.message range
    | none => checkAll backends

def backends (content : BodyContent) : List Block :=
  content.blocks.flatMap fun terraform => terraform.body.blocks

def check : Program Unit := do
  let content ← Program.getContent schema
  checkAll (backends content)

def rule : Rule := ⟨⟨"terraform_backend_type", true, .error, ""⟩, check⟩

end BackendPolicy.BackendType
