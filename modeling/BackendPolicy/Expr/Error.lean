import BackendPolicy.Expr.Text

/-!
This module contains the reasons why an expression has no value.
-/

namespace BackendPolicy

inductive Wanted where
  | boolean
  | keyText
  | collection
  | array
  | object
  | position
  | positionOrKey
deriving DecidableEq, Repr

def Wanted.text : Wanted → String
  | boolean => "a boolean"
  | keyText => "a string, boolean or number"
  | collection => "an array or object"
  | array => "an array"
  | object => "an object"
  | position => "an unsigned integer"
  | positionOrKey => "an unsigned integer or string"

inductive EvalFault where
  | undefinedVariable (name : String)
  | undefinedFunction (name : List String)
  | unexpected (value : Value) (wanted : Wanted)
  | outOfBounds (position : Nat)
  | unaryMismatch (op : UnaryOp) (operand : Value)
  | binaryMismatch (op : BinaryOp) (left right : Value)
  | noSuchKey (key : String)
  | keyExists (key : String)
  | unreadable (complaint : String)

def EvalFault.message : EvalFault → String
  | undefinedVariable name => s!"undefined variable `{name}`"
  | undefinedFunction name => "undefined function `" ++ String.intercalate "::" name ++ "`"
  | unexpected value wanted => s!"unexpected value `{value.text}`, expected {wanted.text}"
  | outOfBounds position => s!"index out of bounds: {position}"
  | unaryMismatch op operand =>
    s!"unary operator `{op.symbol}` is not applicable to `{operand.text}`"
  | binaryMismatch op left right =>
    s!"binary operator `{op.symbol}` is not applicable to `{left.text}` and `{right.text}`"
  | noSuchKey key => s!"no such key: `{key}`"
  | keyExists key => s!"key `{key}` already exists"
  | unreadable complaint => complaint

/--
A fault together with the expression that messages name as its place, if there is one.
-/
structure EvalError where
  fault : EvalFault
  place : Option Expr

def EvalError.message (e : EvalError) : String :=
  match e.place with
  | some place => s!"{e.fault.message} in expression `{place.text}`"
  | none => e.fault.message

end BackendPolicy
