import BackendPolicy.Expr.Text
import BackendPolicy.Hcl.Template

/-!
This module contains the parser of expressions. `expressionWith` reads one expression, given a parser
of the expressions inside it; `expression` closes the recursion.

An expression is a term followed by traversals and operators, or by one conditional. Two things carry
over from its earlier parts to its later ones: after an array, a call or an object loop line endings count
as blanks, and after an operator no conditional may start inside what follows.
-/

namespace BackendPolicy.Hcl

open BackendPolicy.Hcl.Parser

def gap (mode : Mode) : Parser Unit :=
  if mode.newlines then space else blanks

def startsLoop : List Char → Bool
  | 'f' :: 'o' :: 'r' :: c :: _ => c = ' ' || c = '\t' || c = '\n' || c = '#' || c = '/'
  | _ => false

def loopIntro (nested : Nested) : Parser (Binders × Expr) := do
  space
  token "for"
  space
  let names ← binders
  space
  let collection ← nested .line
  space
  need ":"
  return (names, collection)

def loopCondition (nested : Nested) (mode : Mode) : Parser (Option Expr) :=
  opt do
    token "if"
    space
    let e ← nested mode
    space
    return e

def listLoop (nested : Nested) (mode : Mode) : Parser Expr := do
  let (names, collection) ← loopIntro nested
  space
  let value ← nested mode
  space
  let condition ← loopCondition nested mode
  return .forList names collection value condition

def arrayItems (nested : Nested) (mode : Mode) : Parser Expr := do
  let item := do
    space
    if (← rest).head? = some ']' then
      fail
    else
      let e ← nested mode
      space
      return e
  let items ← sepBy item (token ",")
  -- A comma may follow the last item.
  let _ ← opt (token ",")
  return .array items

def array (nested : Nested) (mode : Mode) : Parser Expr := do
  token "["
  let e ← if startsLoop (← restAfter space) then listLoop nested mode else arrayItems nested mode
  space
  need "]"
  return e

def objectLoop (nested : Nested) (mode : Mode) : Parser Expr := do
  let (names, collection) ← loopIntro nested
  space
  let key ← nested .line
  space
  need "=>"
  space
  let value ← nested .line
  space
  let groups := (← opt (token "...")).isSome
  space
  let condition ← loopCondition nested mode
  return .forObject names collection key value groups condition

/--
Turn the expression before an assignment into a key. A lone variable is a literal name.
-/
def keyOf : Expr → Key
  | .variable name => .name name
  | e => .expr e

/--
What tells a key from others: its written form, and whether it is a literal name, a string or another
expression.
-/
inductive KeyIdentity where
  | name (s : String)
  | string (s : String)
  | expr (text : String)
deriving DecidableEq, Repr

def KeyIdentity.of : Key → KeyIdentity
  | .name s => name s
  | .expr (.string s) => string s
  | .expr e => expr e.text

/--
A field of an object with the identity of its key and its source, which includes the blanks before it and
the separator behind it.
-/
structure Field where
  key : Key
  identity : KeyIdentity
  value : Expr
  source : List Char

/--
Add a field to those that are done. A field with the same key gives its place to the new one.
-/
def addField (field : Field) : List Field → List Field
  | [] => [field]
  | f :: fields => if f.identity = field.identity then field :: fields else f :: addField field fields

/--
The line ending behind a field. It is a newline in the source of a template.
-/
def fieldLineEnding : Parser Unit := do
  let _ ← substituted lineEnding fun _ => ['\n']

def fieldEnd : Parser Unit := do
  match ← rest with
  | [] => fail
  | '\x7d' :: _ => return
  | ',' :: _ => advance 1
  | '\n' :: _ | '\r' :: _ => fieldLineEnding
  | '#' :: _ | '/' :: _ => lineComment; fieldLineEnding
  | _ => complain .objectItem

def objectField (nested : Nested) : Parser (Key × Expr) := do
  let key ← nested .line
  blanks
  -- The sign is consumed before it is judged, so that a complaint names the place behind it.
  let sign ← anyChar
  if sign ≠ '=' ∧ sign ≠ ':' then
    complain .assignment
  else
    blanks
    let value ← nested .line
    blanks
    fieldEnd
    return (keyOf key, value)

def objectFields (nested : Nested) : Parser Expr := do
  let step (fields : List Field) : Parser (Option (List Field)) := do
    match ← restAfter space with
    | [] => fail
    | '\x7d' :: _ => return none
    | _ =>
      let ((key, value), source) ← sliced (do space; objectField nested)
      return some (⟨key, .of key, value, source⟩ :: fields)
  let (fields, span) ← spanned (iterate step [])
  let kept := fields.reverse.foldl (fun kept field => addField field kept) []
  substitute span (kept.flatMap Field.source)
  return .object (kept.map fun field => (field.key, field.value))

def object (nested : Nested) (mode : Mode) : Parser (Expr × Bool) := do
  token "\x7b"
  let isLoop := startsLoop (← restAfter space)
  let e ← if isLoop then objectLoop nested mode else objectFields nested
  space
  need "\x7d"
  return (e, isLoop)

def callArgs (nested : Nested) (mode : Mode) : Parser (List Expr × Bool) := do
  token "("
  let arg := do
    space
    match ← rest with
    | ',' :: _ | '.' :: _ | ')' :: _ => fail
    | _ =>
      let e ← nested mode
      space
      return e
  let args ← opt do
    let args ← sepBy1 arg (token ",")
    let spreads ← opt do
      let spreads ← orElse (do token ","; return false) (do token "."; need ".."; return true)
      space
      return spreads
    return (args, spreads.getD false)
  space
  expect .argument (token ")")
  return args.getD ([], false)

def named (nested : Nested) (mode : Mode) : Parser (Expr × Bool) := do
  let name ← ident
  let call (moreNames : List String) : Parser (Expr × Bool) := do
    let (args, spreadsLast) ← callArgs nested { mode with newlines := true }
    return (.call (name :: moreNames) args spreadsLast, true)
  match ← restAfter (gap mode) with
  | '(' :: _ => gap mode; call []
  | ':' :: ':' :: _ =>
    let moreNames ← many do
      gap mode
      token "::"
      gap mode
      needIdent
    gap mode
    expect (.missing "(") (do let _ ← restAfter (token "("))
    call moreNames
  | _ =>
    match name with
    | "null" => return (.null, false)
    | "true" => return (.bool true, false)
    | "false" => return (.bool false, false)
    | _ => return (.variable name, false)

def parenthesis (nested : Nested) : Parser Expr := do
  token "("
  space
  let e ← nested .bracketed
  space
  need ")"
  return .paren e

/--
The operators before a term. Of several only the last one counts. A minus sign before a number belongs to
the number.
-/
def unaryOp : Parser (Option UnaryOp) := do
  let one : Parser UnaryOp := do
    match ← rest with
    | '!' :: _ => advance 1; blanks; return .not
    | '-' :: _ =>
      -- A minus sign that belongs to a number is no operator.
      match ← opt negativeNumber with
      | some _ => fail
      | none => advance 1; blanks; return .neg
    | _ => fail
  let ops ← many (spanned one)
  match ops.head?, ops.getLast? with
  | some (_, first), some (op, last) =>
    substitute ⟨first.start, last.start⟩ []
    return some op
  | _, _ => return none

def quotedTerm (nested : Nested) : Parser Expr :=
  orElse
    (do
      let s ← substituted quotedString fun s => (quoteSource s).toList
      return .string s)
    (do
      let pieces ← substituted (quotedTemplate nested) fun pieces => '"' :: quotedSourceOf pieces ++ ['"']
      return templateOf .quoted pieces)

/--
A term without operators before it, and whether line endings count as blanks after it.
-/
def operand (nested : Nested) (mode : Mode) : Parser (Expr × Bool) := do
  let plain (p : Parser Expr) : Parser (Expr × Bool) := do return (← p, false)
  let inner := { mode with newlines := true }
  match ← rest with
  | [] => fail
  | c :: _ =>
    if c = '"' then plain (quotedTerm nested)
    else if c = '[' then return (← array nested inner, true)
    else if c = '\x7b' then object nested inner
    else if c = '(' then plain (parenthesis nested)
    else if c = '<' then plain (heredoc nested)
    else if c.isDigit then plain (Expr.number <$> number)
    else if c = '-' then plain (Expr.number <$> negativeNumber)
    else if isIdentStart c then named nested mode
    else complain .expression

def term (nested : Nested) (mode : Mode) : Parser (Expr × Bool) := do
  let op ← unaryOp
  let (e, newlines) ← operand nested mode
  match op with
  | some op => return (.unary op e, newlines)
  | none => return (e, newlines)

def step (nested : Nested) : Parser Step :=
  orElse
    (do
      token "."
      space
      match ← rest with
      | [] => fail
      | c :: _ =>
        if c = '*' then advance 1; return .members
        else if c.isDigit then return .position (← position)
        else if isIdentStart c then return .field (← ident)
        else complain .step)
    (do
      token "["
      space
      let s ← match (← rest).head? with
        | some '*' => advance 1; pure Step.every
        | _ => Step.index <$> nested .bracketed
      space
      need "]"
      return s)

def addStep (e : Expr) (s : Step) : Expr :=
  match e with
  | .traversal base steps => .traversal base (steps ++ [s])
  | e => .traversal e [s]

def binaryOp : Parser BinaryOp := do
  match ← rest with
  | '=' :: '=' :: _ => advance 2; return .eq
  | '!' :: '=' :: _ => advance 2; return .ne
  | '<' :: '=' :: _ => advance 2; return .le
  | '>' :: '=' :: _ => advance 2; return .ge
  | '&' :: '&' :: _ => advance 2; return .and
  | '|' :: '|' :: _ => advance 2; return .or
  | '<' :: _ => advance 1; return .lt
  | '>' :: _ => advance 1; return .gt
  | '+' :: _ => advance 1; return .add
  | '-' :: _ => advance 1; return .sub
  | '*' :: _ => advance 1; return .mul
  | '/' :: _ => advance 1; return .div
  | '%' :: _ => advance 1; return .rem
  | _ => fail

inductive Continuation where
  | nothing
  | traversal
  | operator
  | conditional
deriving DecidableEq, Repr

/--
How an expression goes on before a text of at least two characters. The dots of a spread, the arrow of a
loop and the start of a comment end it.
-/
def Continuation.before : List Char → Continuation
  | [] | [_] => nothing
  | '.' :: '.' :: _ => nothing
  | '=' :: '>' :: _ => nothing
  | '/' :: '/' :: _ => nothing
  | '/' :: '*' :: _ => nothing
  | '=' :: '=' :: _ => operator
  | '=' :: _ => nothing
  | '.' :: _ | '[' :: _ => traversal
  | '?' :: _ => conditional
  | c :: _ => if c ∈ ['!', '<', '>', '&', '|', '+', '-', '*', '/', '%'] then operator else nothing

structure Chain where
  expr : Expr
  mode : Mode
  isFinished : Bool

def Chain.extend (nested : Nested) (conditionals : Bool) (p : Chain) : Parser (Option Chain) := do
  if p.isFinished then
    return none
  gap p.mode
  match Continuation.before (← rest) with
  | .nothing => return none
  | .traversal =>
    let s ← step nested
    return some { p with expr := addStep p.expr s }
  | .operator =>
    let op ← binaryOp
    -- This also holds for a conditional that follows the operator, so the new mode is kept.
    let mode := { p.mode with conditionals := false }
    gap mode
    let right ← nested mode
    return some { p with expr := .binary p.expr op right, mode }
  | .conditional =>
    if conditionals then
      token "?"
      gap p.mode
      let onTrue ← nested p.mode
      gap p.mode
      need ":"
      gap p.mode
      let onFalse ← nested p.mode
      return some { p with expr := .conditional p.expr onTrue onFalse, isFinished := true }
    else
      return none

def expressionWith (nested : Nested) (mode : Mode) : Parser Expr := do
  let (e, newlines) ← term nested mode
  let start := ⟨e, { mode with newlines := mode.newlines || newlines }, false⟩
  let p ← iterate (Chain.extend nested mode.conditionals) start
  return p.expr

def expressionWithin : Nat → Nested
  | 0 => fun _ => fail
  | depth + 1 => expressionWith (expressionWithin depth)

/--
An expression. Every nested expression is shorter than what it is nested in, so the length of the text
bounds the depth.
-/
def expression (mode : Mode) : Parser Expr := fun c =>
  expressionWithin (c.rest.length + 1) mode c

end BackendPolicy.Hcl
