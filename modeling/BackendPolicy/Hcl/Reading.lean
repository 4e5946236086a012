import BackendPolicy.Expr.Templates
import BackendPolicy.Hcl.Expression

/-!
This module contains the reading of templates from their sources. The elements of a template may hold
templates of their own, whose sources are read in turn.
-/

namespace BackendPolicy.Hcl

def readSource (source : List Char) : Except ParseError (List Element) :=
  match sourcePieces expression (.start source) with
  | .ok pieces next =>
    if next.rest = [] then
      .ok (pieces.map Piece.element)
    else
      .error (.atOffset source next.offset .unexpectedToken)
  | .soft => .error (.atOffset source 0 .unexpectedToken)
  | .hard offset fault => .error (.atOffset source offset fault)

/--
A template with the elements that its source has. Templates inside it are read up to a depth.
-/
def templateAt : Nat → TemplateForm → String → Expr
  | 0, form, source => .template form source []
  | depth + 1, form, source =>
    match readSource source.toList with
    | .ok elements => .template form source (mapTemplatesElements (templateAt depth) elements)
    | .error e => .unreadable form source (e.report source.toList)

def readTemplates (depth : Nat) (e : Expr) : Expr :=
  e.mapTemplates (templateAt depth)

end BackendPolicy.Hcl
