import BackendPolicy.Expr.Basic

/-!
This module contains the replacement of the outermost templates of an expression.
-/

namespace BackendPolicy

mutual

/--
Replace every outermost template of an expression by what its form and source give.
-/
def Expr.mapTemplates (f : TemplateForm → String → Expr) : Expr → Expr
  | .null => .null
  | .bool b => .bool b
  | .number n => .number n
  | .string s => .string s
  | .array items => .array (mapTemplatesAll f items)
  | .object fields => .object (mapTemplatesFields f fields)
  | .template form source _ => f form source
  | .unreadable form source _ => f form source
  | .variable name => .variable name
  | .traversal base steps => .traversal (base.mapTemplates f) (mapTemplatesSteps f steps)
  | .call name args spreadsLast => .call name (mapTemplatesAll f args) spreadsLast
  | .paren e => .paren (e.mapTemplates f)
  | .conditional condition onTrue onFalse =>
    .conditional (condition.mapTemplates f) (onTrue.mapTemplates f) (onFalse.mapTemplates f)
  | .unary op e => .unary op (e.mapTemplates f)
  | .binary left op right => .binary (left.mapTemplates f) op (right.mapTemplates f)
  | .forList binders collection value condition =>
    .forList binders (collection.mapTemplates f) (value.mapTemplates f) (mapTemplatesOption f condition)
  | .forObject binders collection key value groups condition =>
    .forObject binders (collection.mapTemplates f) (key.mapTemplates f) (value.mapTemplates f) groups
      (mapTemplatesOption f condition)

def mapTemplatesOption (f : TemplateForm → String → Expr) : Option Expr → Option Expr
  | none => none
  | some e => some (e.mapTemplates f)

def mapTemplatesAll (f : TemplateForm → String → Expr) : List Expr → List Expr
  | [] => []
  | e :: es => e.mapTemplates f :: mapTemplatesAll f es

def mapTemplatesKey (f : TemplateForm → String → Expr) : Key → Key
  | .name s => .name s
  | .expr e => .expr (e.mapTemplates f)

def mapTemplatesFields (f : TemplateForm → String → Expr) : List (Key × Expr) → List (Key × Expr)
  | [] => []
  | (key, e) :: fields => (mapTemplatesKey f key, e.mapTemplates f) :: mapTemplatesFields f fields

def mapTemplatesSteps (f : TemplateForm → String → Expr) : List Step → List Step
  | [] => []
  | .index e :: steps => .index (e.mapTemplates f) :: mapTemplatesSteps f steps
  | step :: steps => step :: mapTemplatesSteps f steps

def Element.mapTemplates (f : TemplateForm → String → Expr) : Element → Element
  | .literal s => .literal s
  | .interpolation strip e => .interpolation strip (e.mapTemplates f)
  | .ifElse opening condition onTrue middle onFalse closing =>
    .ifElse opening (condition.mapTemplates f) (mapTemplatesElements f onTrue) middle
      (mapTemplatesElements f onFalse) closing
  | .forEach opening binders collection body closing =>
    .forEach opening binders (collection.mapTemplates f) (mapTemplatesElements f body) closing

def mapTemplatesElements (f : TemplateForm → String → Expr) : List Element → List Element
  | [] => []
  | e :: es => e.mapTemplates f :: mapTemplatesElements f es

end

end BackendPolicy
