import BackendPolicy.Body.Basic
import BackendPolicy.Hcl.Reading

/-!
This module contains the parser of files: `parseFile` turns a text into its body, or finds the complaint
and its place.
-/

namespace BackendPolicy.Hcl

open BackendPolicy.Hcl.Parser

def endOfText : Parser Unit := do
  match ← rest with
  | [] => return
  | _ => fail

def label : Parser Label := do
  let (text, span) ← spanned (orElse ident quotedString)
  blanks
  return ⟨text, span⟩

/--
The value of an attribute, from the sign of equality on. The attribute itself starts at `start`. A template
begins with a character that is not part of the templates inside it, so the length of the value bounds
their depth.
-/
def attributeValue (key : String) (start : Nat) : Parser Structure := do
  token "="
  blanks
  let (value, span) ← spanned (expression .line)
  return .attribute key (readTemplates (span.stop - span.start) value) ⟨start, span.stop⟩ span

def lineAttribute : Parser Structure := do
  let (key, span) ← spanned ident
  blanks
  expect .noAttributeValue (do let _ ← restAfter (token "="))
  attributeValue key span.start

/--
The body of a block, given a parser of the bodies of several lines. On one line there is at most one
attribute.
-/
def blockBody (body : Parser Body) : Parser Body := do
  expect .noBlockOpening (token "\x7b")
  let severalLines := do
    blanks
    let _ ← opt lineComment
    let _ ← lineEnding
    body
  let oneLine := do
    blanks
    let only ← opt do
      let only ← lineAttribute
      blanks
      return only
    return only.toList
  let structures ← orElse severalLines oneLine
  expect .blockBody (token "\x7d")
  return structures

def oneStructure (keys : List String) (body : Parser Body) : Parser Structure := do
  let start ← offset
  let (name, span) ← spanned ident
  blanks
  match ← rest with
  | [] => fail
  | c :: _ =>
    if c = '=' then
      if name ∈ keys then
        -- The complaint names the place of the key and not the one that is reached.
        fun _ => .hard start .redefinedAttribute
      else
        attributeValue name start
    else if c = '\x7b' then
      return .block name span [] (← blockBody body)
    else if c = '"' || isIdentStart c then
      let labels ← many label
      return .block name span labels (← blockBody body)
    else
      complain .structureHead

def keysOf (body : Body) : List String :=
  body.filterMap fun
    | .attribute key _ _ _ => some key
    | .block _ _ _ _ => none

/--
A body of several lines, given a parser of those inside its blocks. It ends before the first text that is
no structure.
-/
def bodyWith (body : Parser Body) : Parser Body := do
  let step (done : Body) : Parser (Option Body) := do
    space
    match ← opt (oneStructure (keysOf done) body) with
    -- What follows is judged by whoever closes the body.
    | none => return none
    | some s =>
      blanks
      let _ ← opt lineComment
      expect .noLineEnd (orElse (do let _ ← lineEnding) endOfText)
      return some (done ++ [s])
  let structures ← iterate step []
  space
  return structures

def bodyWithin : Nat → Parser Body
  | 0 => fail
  | depth + 1 => bodyWith (bodyWithin depth)

def file : Parser Body := do
  let length := (← rest).length
  let body ← bodyWithin (length + 1)
  expect .unexpectedToken endOfText
  return body

def parseFile (text : List Char) : Except ParseError Body :=
  match file (.start text) with
  | .ok body _ => .ok body
  | .soft => .error (.atOffset text 0 .unexpectedToken)
  | .hard offset fault => .error (.atOffset text offset fault)

end BackendPolicy.Hcl
