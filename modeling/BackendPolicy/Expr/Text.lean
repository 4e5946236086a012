import BackendPolicy.Expr.Basic
import BackendPolicy.Value.Text

/-!
This module contains the written form of expressions, as error messages show them.
-/

namespace BackendPolicy

def Binders.text (b : Binders) : String :=
  match b.key with
  | some key => key ++ ", " ++ b.value
  | none => b.value

/--
Write a template from its source. The end word of a heredoc stands on a line of its own, which is indented
to the level if the heredoc drops its indentation.
-/
def TemplateForm.textAt (level : Nat) (form : TemplateForm) (source : String) : String :=
  match form with
  | quoted => "\"" ++ source ++ "\""
  | heredoc word dedents =>
    let ending := if source.endsWith "\n" then "" else "\n"
    (if dedents then "<<-" else "<<") ++ word ++ "\n" ++ source ++ ending
      ++ (if dedents then Value.indentation level else "") ++ word

mutual

/--
Whether the last array or object that is opened in the written form of an expression is empty. If none is
opened, it is what holds `before`.
-/
def Expr.endsEmpty (before : Bool) : Expr → Bool
  | .array items => lastEndsEmpty items
  | .object fields => lastFieldEndsEmpty fields
  | .traversal base steps => stepsEndEmpty (base.endsEmpty before) steps
  | .call _ args _ => allEndEmpty before args
  | .paren e => e.endsEmpty before
  | .conditional condition onTrue onFalse =>
    onFalse.endsEmpty (onTrue.endsEmpty (condition.endsEmpty before))
  | .unary _ e => e.endsEmpty before
  | .binary left _ right => right.endsEmpty (left.endsEmpty before)
  | .forList _ collection value condition =>
    optionEndsEmpty (value.endsEmpty (collection.endsEmpty before)) condition
  | .forObject _ collection key value _ condition =>
    optionEndsEmpty (value.endsEmpty (key.endsEmpty (collection.endsEmpty before))) condition
  | _ => before

def lastEndsEmpty : List Expr → Bool
  | [] => true
  | [item] => item.endsEmpty false
  | _ :: items => lastEndsEmpty items

def keyEndsEmpty : Key → Bool
  | .name _ => false
  | .expr e => e.endsEmpty false

def lastFieldEndsEmpty : List (Key × Expr) → Bool
  | [] => true
  | [(key, e)] => e.endsEmpty (keyEndsEmpty key)
  | _ :: fields => lastFieldEndsEmpty fields

def stepsEndEmpty (before : Bool) : List Step → Bool
  | [] => before
  | .index e :: steps => stepsEndEmpty (e.endsEmpty before) steps
  | _ :: steps => stepsEndEmpty before steps

def allEndEmpty (before : Bool) : List Expr → Bool
  | [] => before
  | e :: es => allEndEmpty (e.endsEmpty before) es

def optionEndsEmpty (before : Bool) : Option Expr → Bool
  | none => before
  | some e => e.endsEmpty before

end

structure Layout where
  level : Nat
  isCompact : Bool
deriving DecidableEq, Repr

namespace Layout

def inner (l : Layout) : Layout :=
  if l.isCompact then l else { l with level := l.level + 1 }

def compact (l : Layout) : Layout :=
  { l with isCompact := true }

/--
Begin a new line. Within a line another text takes its place.
-/
def newLine (l : Layout) (instead : String) : String :=
  if l.isCompact then instead else "\n" ++ Value.indentation l.level

def itemSeparator (l : Layout) (bare : Bool) : String :=
  if bare then l.newLine "" else "," ++ l.newLine " "

/--
What separates a field from the one before it. There is no comma if `bare`, and none before a new line.
-/
def fieldSeparator (l : Layout) (bare : Bool) : String :=
  l.newLine (if bare then " " else ", ")

end Layout

mutual

/--
Write an expression. The arguments of a call and the parts of a conditional are written within a line.
-/
def Expr.textIn (l : Layout) : Expr → String
  | .null => "null"
  | .bool b => if b then "true" else "false"
  | .number n => n.text
  | .string s => quote s
  | .array [] => "[]"
  | .array (item :: items) =>
    "[" ++ l.inner.newLine "" ++ item.textIn l.inner ++ moreItemsText l.inner (item.endsEmpty false) items
      ++ l.newLine "" ++ "]"
  | .object [] => "\x7b\x7d"
  | .object ((key, e) :: fields) =>
    "\x7b" ++ l.inner.newLine " " ++ keyText l.inner key ++ " = " ++ e.textIn l.inner
      ++ moreFieldsText l.inner (e.endsEmpty (keyEndsEmpty key)) fields ++ l.newLine " " ++ "\x7d"
  | .template form source _ => form.textAt l.level source
  | .unreadable form source _ => form.textAt l.level source
  | .variable name => name
  | .traversal base steps => base.textIn l ++ stepsText l steps
  | .call name args spreadsLast =>
    String.intercalate "::" name ++ "(" ++ argsText l.compact args
      ++ (if spreadsLast then "..." else "") ++ ")"
  | .paren e => "(" ++ e.textIn l ++ ")"
  | .conditional condition onTrue onFalse =>
    condition.textIn l.compact ++ " ? " ++ onTrue.textIn l.compact ++ " : " ++ onFalse.textIn l.compact
  | .unary op e => op.symbol ++ e.textIn l
  | .binary left op right => left.textIn l ++ " " ++ op.symbol ++ " " ++ right.textIn l
  | .forList binders collection value condition =>
    "[for " ++ binders.text ++ " in " ++ collection.textIn l ++ " : " ++ value.textIn l
      ++ conditionText l condition ++ "]"
  | .forObject binders collection key value groups condition =>
    "\x7bfor " ++ binders.text ++ " in " ++ collection.textIn l ++ " : " ++ key.textIn l
      ++ " => " ++ value.textIn l ++ (if groups then "..." else "")
      ++ conditionText l condition ++ "\x7d"

def conditionText (l : Layout) : Option Expr → String
  | none => ""
  | some e => " if " ++ e.textIn l

def moreItemsText (l : Layout) (bare : Bool) : List Expr → String
  | [] => ""
  | item :: items =>
    l.itemSeparator bare ++ item.textIn l ++ moreItemsText l (item.endsEmpty false) items

def argsText (l : Layout) : List Expr → String
  | [] => ""
  | [arg] => arg.textIn l
  | arg :: args => arg.textIn l ++ ", " ++ argsText l args

def keyText (l : Layout) : Key → String
  | .name s => s
  | .expr e => e.textIn l

def moreFieldsText (l : Layout) (bare : Bool) : List (Key × Expr) → String
  | [] => ""
  | (key, e) :: fields =>
    l.fieldSeparator bare ++ keyText l key ++ " = " ++ e.textIn l
      ++ moreFieldsText l (e.endsEmpty (keyEndsEmpty key)) fields

def stepsText (l : Layout) : List Step → String
  | [] => ""
  | .field name :: steps => "." ++ name ++ stepsText l steps
  | .index e :: steps => "[" ++ e.textIn l ++ "]" ++ stepsText l steps
  | .position n :: steps => "." ++ toString n ++ stepsText l steps
  | .members :: steps => ".*" ++ stepsText l steps
  | .every :: steps => "[*]" ++ stepsText l steps

end

def Expr.text (e : Expr) : String :=
  e.textIn ⟨0, false⟩

end BackendPolicy
