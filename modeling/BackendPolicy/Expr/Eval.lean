import BackendPolicy.Expr.Error
import BackendPolicy.Expr.Precedence
import BackendPolicy.Text.Blank

/-!
This module contains the evaluation of expressions. `Expr.value` evaluates an expression as it is nested,
`Expr.eval` arranges its operators by precedence before.
-/

namespace BackendPolicy

/--
The variables that an expression can refer to. Of two of one name the first one counts.
-/
abbrev Scope := List (String × Value)

def Scope.bind (scope : Scope) (binders : Binders) (key value : Value) : Scope :=
  let scope := (binders.value, value) :: scope
  match binders.key with
  | some name => if name = binders.value then scope else (name, key) :: scope
  | none => scope

abbrev Eval (α : Type) := Except EvalError α

structure Context where
  scope : Scope
  current : Option Expr
  around : Option Expr

namespace Context

def start (scope : Scope) : Context := ⟨scope, none, none⟩

def enter (c : Context) (e : Expr) : Context := ⟨c.scope, some e, c.current⟩

/--
Go into one round of a loop. It is no expression of its own, but the loop is around it.
-/
def bind (c : Context) (binders : Binders) (key value : Value) : Context :=
  ⟨c.scope.bind binders key value, none, c.current⟩

/--
Fail. The place of the fault is the expression around the one that is evaluated. Where there is none, it is
that expression itself.
-/
def fail (c : Context) (fault : EvalFault) : Eval α :=
  .error ⟨fault, c.around <|> c.current⟩

end Context

namespace Value

def keyText? : Value → Option String
  | .string s => some s
  | .number n => some n.text
  | .bool b => some (if b then "true" else "false")
  | _ => none

def entries? : Value → Option (List (Value × Value))
  | .array items => some (items.zipIdx.map fun (item, i) => (.number (.int i), item))
  | .object fields => some (fields.map fun (key, value) => (.string key, value))
  | _ => none

/--
The items that a splat visits. What is no array counts as an array of one item, null as an empty one.
-/
def splatItems : Value → List Value
  | .array items => items
  | .null => []
  | v => [v]

def item (c : Context) (v : Value) (position : Nat) : Eval Value :=
  match v with
  | .array items =>
    match items[position]? with
    | some item => .ok item
    | none => c.fail (.outOfBounds position)
  | v => c.fail (.unexpected v .array)

def field (c : Context) (v : Value) (key : String) : Eval Value :=
  match v with
  | .object fields =>
    match fields.lookup key with
    | some value => .ok value
    | none => c.fail (.noSuchKey key)
  | v => c.fail (.unexpected v .object)

def part (c : Context) (v index : Value) : Eval Value :=
  match index with
  | .string key => v.field c key
  | .number n =>
    match n.toNat? with
    | some position => v.item c position
    | none => c.fail (.unexpected index .position)
  | _ => c.fail (.unexpected index .positionOrKey)

def condition (c : Context) (v : Value) : Eval Bool :=
  match v with
  | .bool b => .ok b
  | v => c.fail (.unexpected v .boolean)

def key (c : Context) (v : Value) : Eval String :=
  match v.keyText? with
  | some key => .ok key
  | none => c.fail (.unexpected v .keyText)

def entries (c : Context) (v : Value) : Eval (List (Value × Value)) :=
  match v.entries? with
  | some entries => .ok entries
  | none => c.fail (.unexpected v .collection)

end Value

def UnaryOp.apply (c : Context) (op : UnaryOp) (v : Value) : Eval Value :=
  match op, v with
  | .neg, .number n => .ok (.number n.neg)
  | .not, .bool b => .ok (.bool !b)
  | op, v => c.fail (.unaryMismatch op v)

def BinaryOp.apply (c : Context) (op : BinaryOp) (left right : Value) : Eval Value :=
  match op, left, right with
  | .eq, l, r => .ok (.bool (l.same r))
  | .ne, l, r => .ok (.bool !(l.same r))
  | .and, .bool a, .bool b => .ok (.bool (a && b))
  | .or, .bool a, .bool b => .ok (.bool (a || b))
  | .lt, .number a, .number b => .ok (.bool (a.blt b))
  | .le, .number a, .number b => .ok (.bool (a.ble b))
  | .gt, .number a, .number b => .ok (.bool (b.blt a))
  | .ge, .number a, .number b => .ok (.bool (b.ble a))
  | .add, .number a, .number b => .ok (.number (a.add b))
  | .sub, .number a, .number b => .ok (.number (a.sub b))
  | .mul, .number a, .number b => .ok (.number (a.mul b))
  | .div, .number a, .number b => .ok (.number (a.div b))
  | .rem, .number a, .number b => .ok (.number (a.rem b))
  | op, l, r => c.fail (.binaryMismatch op l r)

/--
What a traversal has reached: a value, or the items of a splat with the outcome of each.
-/
inductive Focus where
  | one (v : Value)
  | each (items : List (Eval Value))

/--
The value that a traversal has reached. Of several failed items the first one counts.
-/
def Focus.value : Focus → Eval Value
  | one v => .ok v
  | each items => do return .array (← items.mapM id)

def Element.stripsBefore : Element → Bool
  | .literal _ => false
  | .interpolation strip _ => strip.left
  | .ifElse opening _ _ _ _ _ => opening.left
  | .forEach opening _ _ _ _ => opening.left

/--
Whether the marker after a text strips it: that of the next element, or else that of the enclosing one.
-/
def stripsAfter (enclosing : Bool) : List Element → Bool
  | [] => enclosing
  | e :: _ => e.stripsBefore

/--
Add a field to an object under construction. When grouping, the values of one key are collected in an
array; otherwise a key may occur only once.
-/
def addField (c : Context) (groups : Bool) (fields : List (String × Value)) (key : String) (value : Value) :
    Eval (List (String × Value)) :=
  match fields.lookup key with
  | none => .ok (Value.putField key (if groups then .array [value] else value) fields)
  | some old =>
    match groups, old with
    | true, .array items => .ok (Value.putField key (.array (items ++ [value])) fields)
    | _, _ => c.fail (.keyExists key)

mutual

def Expr.value (c : Context) : Expr → Eval Value
  | .null => .ok .null
  | .bool b => .ok (.bool b)
  | .number n => .ok (.number n)
  | .string s => .ok (.string s)
  | .array items => do
    let c := c.enter (.array items)
    return .array (← itemValues c items)
  | .object fields => do
    let c := c.enter (.object fields)
    return .object (← fieldValues c [] fields)
  | .template form source [.interpolation strip e] =>
    e.value (c.enter (.template form source [.interpolation strip e]))
  | .template form source elements => do
    let c := c.enter (.template form source elements)
    return .string (← elementsText c false false elements)
  | .unreadable _ _ complaint => .error ⟨.unreadable complaint, none⟩
  | .variable name =>
    match c.scope.lookup name with
    | some v => .ok v
    | none => (c.enter (.variable name)).fail (.undefinedVariable name)
  | .traversal base steps => do
    let c := c.enter (.traversal base steps)
    let v ← base.value c
    walk c (.one v) steps
  | .call name args spreadsLast =>
    (c.enter (.call name args spreadsLast)).fail (.undefinedFunction name)
  | .paren e => e.value (c.enter (.paren e))
  | .conditional condition onTrue onFalse => do
    let c := c.enter (.conditional condition onTrue onFalse)
    let v ← condition.value c
    if ← v.condition c then
      onTrue.value c
    else
      onFalse.value c
  | .unary op e => do
    let c := c.enter (.unary op e)
    let v ← e.value c
    op.apply c v
  | .binary left op right => do
    let c := c.enter (.binary left op right)
    let l ← left.value c
    let r ← right.value c
    op.apply c l r
  | .forList binders collection value condition => do
    let c := c.enter (.forList binders collection value condition)
    let entries ← (← collection.value c).entries c
    let items ← entries.filterMapM fun (k, v) => do
      let c := c.bind binders k v
      if ← conditionHolds c condition then
        return some (← value.value c)
      else
        return none
    return .array items
  | .forObject binders collection key value groups condition => do
    let c := c.enter (.forObject binders collection key value groups condition)
    let entries ← (← collection.value c).entries c
    let fields ← entries.foldlM (fun fields (k, v) => do
      let c := c.bind binders k v
      if ← conditionHolds c condition then
        let name ← (← key.value c).key c
        let item ← value.value c
        addField c groups fields name item
      else
        return fields) []
    return .object fields
termination_by structural e => e

def conditionHolds (c : Context) : Option Expr → Eval Bool
  | none => .ok true
  | some e => do (← e.value c).condition c
termination_by structural condition => condition

def itemValues (c : Context) : List Expr → Eval (List Value)
  | [] => .ok []
  | e :: es => do
    let v ← e.value c
    let vs ← itemValues c es
    return v :: vs
termination_by structural items => items

def keyValue (c : Context) : Key → Eval String
  | .name s => .ok s
  | .expr e => do (← e.value c).key c
termination_by structural key => key

def fieldValues (c : Context) (done : List (String × Value)) :
    List (Key × Expr) → Eval (List (String × Value))
  | [] => .ok done
  | (key, e) :: fields => do
    let name ← keyValue c key
    let v ← e.value c
    fieldValues c (Value.putField name v done) fields
termination_by structural fields => fields

def walk (c : Context) (focus : Focus) : List Step → Eval Value
  | [] => focus.value
  | .field name :: steps =>
    match focus with
    | .one v => do
      let v ← v.field c name
      walk c (.one v) steps
    | .each items => walk c (.each (items.map fun item => do (← item).field c name)) steps
  | .index e :: steps => do
    let v ← focus.value
    let index ← e.value c
    let v ← v.part c index
    walk c (.one v) steps
  | .position n :: steps => do
    let v ← focus.value
    let v ← v.item c n
    walk c (.one v) steps
  | .members :: steps => do
    let v ← focus.value
    walk c (.each (v.splatItems.map .ok)) steps
  -- The remaining steps are taken for every item on its own.
  | .every :: steps => do
    let v ← focus.value
    return .array (← v.splatItems.mapM fun item => walk c (.one item) steps)
termination_by structural steps => steps

/--
Render the elements of a template. `before` and `after` tell whether the markers around them strip.
-/
def elementsText (c : Context) (before after : Bool) : List Element → Eval String
  | [] => .ok ""
  | .literal s :: rest => do
    let tail ← elementsText c false after rest
    return stripEnds before (stripsAfter after rest) s ++ tail
  | .interpolation strip e :: rest => do
    let v ← e.value c
    let tail ← elementsText c strip.right after rest
    return v.inlineText ++ tail
  | .ifElse opening condition onTrue middle onFalse closing :: rest => do
    let head ←
      if ← (← condition.value c).condition c then
        elementsText c opening.right (middle.getD closing).left onTrue
      else
        elementsText c (middle.getD closing).right closing.left onFalse
    let tail ← elementsText c closing.right after rest
    return head ++ tail
  | .forEach opening binders collection body closing :: rest => do
    let entries ← (← collection.value c).entries c
    let heads ← entries.mapM fun (k, v) =>
      elementsText (c.bind binders k v) opening.right closing.left body
    let tail ← elementsText c closing.right after rest
    return String.join heads ++ tail
termination_by structural elements => elements

end

def Expr.eval (scope : Scope) (e : Expr) : Eval Value :=
  e.arrange.value (.start scope)

end BackendPolicy
