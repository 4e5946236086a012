import BackendPolicy.Module.Basic
import BackendPolicy.Report.Issue

/-!
This module contains the language that rules are written in: a `Program` knows the rule that it belongs to, asks
its host for content and values and reports violations. `Program.run` answers the questions from a `Host` and
records them.
-/

namespace BackendPolicy

structure RuleInfo where
  name : String
  enabled : Bool
  severity : Severity
  link : String
deriving DecidableEq, Repr, Inhabited

def RuleInfo.issue (info : RuleInfo) (message : String) (range : Range) : Issue :=
  ⟨info.name, info.severity, message, range⟩

/--
What is asked of a host, and how to continue with the answer. A question that fails is answered too. A violation
may be reported in the name of any rule.
-/
inductive Dialogue (α : Type) where
  | done (result : Except RunError α)
  | content (schema : BodySchema) (next : Except RunError BodyContent → Dialogue α)
  | evaluate (a : Attribute) (next : Except RunError String → Dialogue α)
  | emit (reporter : RuleInfo) (message : String) (range : Range) (next : Except RunError Unit → Dialogue α)

namespace Dialogue

variable {α β : Type}

protected def bind : Dialogue α → (α → Dialogue β) → Dialogue β
  | done (.ok a), f => f a
  | done (.error e), _ => done (.error e)
  | content schema next, f => content schema fun r => (next r).bind f
  | evaluate a next, f => evaluate a fun r => (next r).bind f
  | emit reporter message range next, f => emit reporter message range fun r => (next r).bind f

instance : Monad Dialogue where
  pure a := done (.ok a)
  bind := Dialogue.bind

end Dialogue

/--
The dialogue that a rule has with its host, given what is known about the rule.
-/
def Program (α : Type) : Type := ReaderT RuleInfo Dialogue α

namespace Program

instance : Monad Program := inferInstanceAs (Monad (ReaderT RuleInfo Dialogue))

def getContent (schema : BodySchema) : Program BodyContent :=
  fun _ => .content schema .done

def getString (a : Attribute) : Program String :=
  fun _ => .evaluate a .done

def report (message : String) (range : Range) : Program Unit :=
  fun self => .emit self message range .done

end Program

/--
The host of a rule: what it answers to a question and whether it accepts an issue.
-/
structure Host where
  content : BodySchema → Except RunError BodyContent
  evaluate : Attribute → Except RunError String
  accept : Issue → Except RunError Unit

inductive Call where
  | content (schema : BodySchema) (answer : Except RunError BodyContent)
  | evaluate (a : Attribute) (answer : Except RunError String)
  | emit (issue : Issue) (answer : Except RunError Unit)

def Call.accepted? : Call → Option Issue
  | emit issue (.ok ()) => some issue
  | _ => none

structure Run (α : Type) where
  calls : List Call
  result : Except RunError α

namespace Run

variable {α : Type}

def after (call : Call) (r : Run α) : Run α :=
  { r with calls := call :: r.calls }

def issues (r : Run α) : List Issue :=
  r.calls.filterMap Call.accepted?

end Run

def Dialogue.run (host : Host) {α : Type} : Dialogue α → Run α
  | done result => ⟨[], result⟩
  | content schema next =>
    let answer := host.content schema
    ((next answer).run host).after (.content schema answer)
  | evaluate a next =>
    let answer := host.evaluate a
    ((next answer).run host).after (.evaluate a answer)
  | emit reporter message range next =>
    let issue := reporter.issue message range
    let answer := host.accept issue
    ((next answer).run host).after (.emit issue answer)

def Program.run (host : Host) (info : RuleInfo) {α : Type} (p : Program α) : Run α :=
  Dialogue.run host (p info)

structure Rule where
  info : RuleInfo
  check : Program Unit

def Rule.run (host : Host) (rule : Rule) : Run Unit :=
  rule.check.run host rule.info

end BackendPolicy
