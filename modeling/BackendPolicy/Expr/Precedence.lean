import BackendPolicy.Expr.Basic

/-!
This module contains the arrangement of operator chains. A chain is read with every operator nested to
the right. `OpTree.normalize` turns the top of such a tree by the precedence of its operators, once;
operators of equal precedence stay nested to the right. `Expr.arrange` does so at every node, from the
top down.
-/

namespace BackendPolicy

inductive OpTree where
  | operand (e : Expr)
  | node (left : OpTree) (op : BinaryOp) (right : OpTree)

namespace OpTree

def size : OpTree → Nat
  | operand _ => 0
  | node left _ right => left.size + right.size + 1

def joinLeft : OpTree → BinaryOp → OpTree → OpTree
  | node ll lop lr, op, right =>
    if lop.precedence < op.precedence then node ll lop (node lr op right) else node (node ll lop lr) op right
  | left, op, right => node left op right

def joinRight : OpTree → BinaryOp → OpTree → OpTree
  | left, op, node rl rop rr =>
    if rop.precedence < op.precedence then node (node left op rl) rop rr else node left op (node rl rop rr)
  | left, op, right => node left op right

/--
Combine two trees, moving the new operator below a looser one of either side. The left side goes first.
-/
def join : OpTree → BinaryOp → OpTree → OpTree
  | node ll lop lr, op, node rl rop rr =>
    if lop.precedence < op.precedence then
      node ll lop (joinRight lr op (node rl rop rr))
    else if rop.precedence < op.precedence then
      node (joinLeft (node ll lop lr) op rl) rop rr
    else
      node (node ll lop lr) op (node rl rop rr)
  | node ll lop lr, op, operand e => joinLeft (node ll lop lr) op (operand e)
  | operand e, op, right => joinRight (operand e) op right

/--
Turn the top of a tree by precedence, after the trees below it.
-/
def normalize : OpTree → OpTree
  | operand e => operand e
  | node left op right => join left.normalize op right.normalize

theorem size_joinLeft (l : OpTree) (op : BinaryOp) (r : OpTree) :
    (joinLeft l op r).size = l.size + r.size + 1 := by
  unfold joinLeft
  split
  · split <;> simp +arith only [size]
  · rfl

theorem size_joinRight (l : OpTree) (op : BinaryOp) (r : OpTree) :
    (joinRight l op r).size = l.size + r.size + 1 := by
  unfold joinRight
  split
  · split <;> simp +arith only [size]
  · rfl

theorem size_join (l : OpTree) (op : BinaryOp) (r : OpTree) :
    (join l op r).size = l.size + r.size + 1 := by
  unfold join
  split
  · split
    · simp only [size, size_joinRight]; omega
    · split
      · simp only [size, size_joinLeft]; omega
      · simp only [size]
  · rw [size_joinLeft]
  · rw [size_joinRight]

@[simp]
theorem size_normalize (t : OpTree) : t.normalize.size = t.size := by
  induction t with
  | operand e => rfl
  | node l op r ihl ihr => rw [normalize, size_join, size, ihl, ihr]

/--
Turn a tree by precedence at every node, from the top down, and then into an expression.
-/
def toExpr (t : OpTree) : Expr :=
  match t with
  | operand e => e
  | node left op right =>
    match h : (node left op right).normalize with
    | operand e => e
    | node l o r =>
      have hsize : l.size + r.size + 1 = (node left op right).size := by
        have := (size_normalize (node left op right)).symm.trans (congrArg size h)
        simpa [size] using this.symm
      .binary l.toExpr o r.toExpr
termination_by t.size

end OpTree

mutual

def Expr.opTree : Expr → OpTree
  | .null => .operand .null
  | .bool b => .operand (.bool b)
  | .number n => .operand (.number n)
  | .string s => .operand (.string s)
  | .array items => .operand (.array (arrangeAll items))
  | .object fields => .operand (.object (arrangeFields fields))
  | .template form source elements => .operand (.template form source (arrangeElements elements))
  | .unreadable form source complaint => .operand (.unreadable form source complaint)
  | .variable name => .operand (.variable name)
  | .traversal base steps => .operand (.traversal base.opTree.toExpr (arrangeSteps steps))
  | .call name args spreadsLast => .operand (.call name (arrangeAll args) spreadsLast)
  | .paren e => .operand (.paren e.opTree.toExpr)
  | .conditional condition onTrue onFalse =>
    .operand (.conditional condition.opTree.toExpr onTrue.opTree.toExpr onFalse.opTree.toExpr)
  | .unary op e => .operand (.unary op e.opTree.toExpr)
  | .binary left op right => .node left.opTree op right.opTree
  | .forList binders collection value condition =>
    .operand (.forList binders collection.opTree.toExpr value.opTree.toExpr (arrangeOption condition))
  | .forObject binders collection key value groups condition =>
    .operand (.forObject binders collection.opTree.toExpr key.opTree.toExpr value.opTree.toExpr groups
      (arrangeOption condition))

def arrangeOption : Option Expr → Option Expr
  | none => none
  | some e => some e.opTree.toExpr

def arrangeAll : List Expr → List Expr
  | [] => []
  | e :: es => e.opTree.toExpr :: arrangeAll es

def arrangeKey : Key → Key
  | .name s => .name s
  | .expr e => .expr e.opTree.toExpr

def arrangeFields : List (Key × Expr) → List (Key × Expr)
  | [] => []
  | (key, e) :: fields => (arrangeKey key, e.opTree.toExpr) :: arrangeFields fields

def arrangeSteps : List Step → List Step
  | [] => []
  | .index e :: steps => .index e.opTree.toExpr :: arrangeSteps steps
  | step :: steps => step :: arrangeSteps steps

def arrangeElement : Element → Element
  | .literal s => .literal s
  | .interpolation strip e => .interpolation strip e.opTree.toExpr
  | .ifElse opening condition onTrue middle onFalse closing =>
    .ifElse opening condition.opTree.toExpr (arrangeElements onTrue) middle (arrangeElements onFalse)
      closing
  | .forEach opening binders collection body closing =>
    .forEach opening binders collection.opTree.toExpr (arrangeElements body) closing

def arrangeElements : List Element → List Element
  | [] => []
  | e :: es => arrangeElement e :: arrangeElements es

end

def Expr.arrange (e : Expr) : Expr :=
  e.opTree.toExpr

end BackendPolicy
