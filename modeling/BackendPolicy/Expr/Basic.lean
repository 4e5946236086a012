import BackendPolicy.Value.Number

/-!
This module contains the abstract syntax of expressions: `Expr` with the parts that only occur inside
one, the keys of objects, the steps of a traversal and the elements of templates. A template keeps its
source, with the escapes of its literals resolved, beside the elements that are read from it.
-/

namespace BackendPolicy

inductive UnaryOp where
  | neg
  | not
deriving DecidableEq, Repr, Inhabited

namespace UnaryOp

def symbol : UnaryOp → String
  | neg => "-"
  | not => "!"

end UnaryOp

inductive BinaryOp where
  | eq
  | ne
  | le
  | ge
  | lt
  | gt
  | add
  | sub
  | mul
  | div
  | rem
  | and
  | or
deriving DecidableEq, Repr, Inhabited

namespace BinaryOp

def symbol : BinaryOp → String
  | eq => "=="
  | ne => "!="
  | le => "<="
  | ge => ">="
  | lt => "<"
  | gt => ">"
  | add => "+"
  | sub => "-"
  | mul => "*"
  | div => "/"
  | rem => "%"
  | and => "&&"
  | or => "||"

/--
How tightly an operator binds. A greater number binds tighter.
-/
def precedence : BinaryOp → Nat
  | mul | div | rem => 6
  | add | sub => 5
  | lt | le | gt | ge => 4
  | eq | ne => 3
  | and => 2
  | or => 1

end BinaryOp

structure Strip where
  left : Bool
  right : Bool
deriving DecidableEq, Repr, Inhabited

inductive TemplateForm where
  | quoted
  | heredoc (word : String) (dedents : Bool)
deriving DecidableEq, Repr, Inhabited

structure Binders where
  key : Option String
  value : String
deriving DecidableEq, Repr, Inhabited

mutual

/--
An expression. A template whose source cannot be read is `unreadable`.
-/
inductive Expr where
  | null
  | bool (b : Bool)
  | number (n : Number)
  | string (s : String)
  | array (items : List Expr)
  | object (fields : List (Key × Expr))
  | template (form : TemplateForm) (source : String) (elements : List Element)
  | unreadable (form : TemplateForm) (source : String) (complaint : String)
  | variable (name : String)
  | traversal (base : Expr) (steps : List Step)
  | call (name : List String) (args : List Expr) (spreadsLast : Bool)
  | paren (e : Expr)
  | conditional (condition onTrue onFalse : Expr)
  | unary (op : UnaryOp) (e : Expr)
  | binary (left : Expr) (op : BinaryOp) (right : Expr)
  | forList (binders : Binders) (collection value : Expr) (condition : Option Expr)
  | forObject (binders : Binders) (collection key value : Expr) (groups : Bool)
      (condition : Option Expr)

inductive Key where
  | name (s : String)
  | expr (e : Expr)

/--
One step of a traversal. `members` takes every following `field`, `every` all the following steps, for
each item.
-/
inductive Step where
  | field (name : String)
  | index (e : Expr)
  | position (n : Nat)
  | members
  | every

inductive Element where
  | literal (s : String)
  | interpolation (strip : Strip) (e : Expr)
  | ifElse (opening : Strip) (condition : Expr) (onTrue : List Element) (middle : Option Strip)
      (onFalse : List Element) (closing : Strip)
  | forEach (opening : Strip) (binders : Binders) (collection : Expr) (body : List Element)
      (closing : Strip)

end

instance : Inhabited Expr := ⟨.null⟩

end BackendPolicy
