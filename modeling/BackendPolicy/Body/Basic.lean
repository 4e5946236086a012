import BackendPolicy.Expr.Basic
import BackendPolicy.Source.Position

/-!
This module contains the bodies of parsed files: attributes and blocks in source order, with the spans of
their parts.
-/

namespace BackendPolicy

/--
A label of a block. Its span includes the quotes, if there are any.
-/
structure Label where
  text : String
  span : Span
deriving DecidableEq, Repr, Inhabited

inductive Structure where
  | attribute (key : String) (value : Expr) (span valueSpan : Span)
  | block (kind : String) (kindSpan : Span) (labels : List Label) (body : List Structure)

instance : Inhabited Structure := ⟨.attribute "" default default default⟩

abbrev Body := List Structure

end BackendPolicy
