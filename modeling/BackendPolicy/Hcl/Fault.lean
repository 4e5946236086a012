import BackendPolicy.Source.LineIndex

/-!
This module contains the complaints of the parser and the place in the text that a complaint is reported
at.
-/

namespace BackendPolicy.Hcl

inductive Fault where
  | unexpectedToken
  | noLineEnd
  | structureHead
  | noBlockOpening
  | blockBody
  | noAttributeValue
  | redefinedAttribute
  | expression
  | missing (token : String)
  | argument
  | identifier
  | step
  | assignment
  | objectItem
  | escape
  | codePoint (digits : Nat)
  | digit
  | newline
  | heredocEnd
deriving DecidableEq, Repr

namespace Fault

def label? : Fault → Option String
  | structureHead => some "structure"
  | blockBody => some "block body"
  | noAttributeValue | redefinedAttribute => some "attribute"
  | expression => some "expression"
  | step => some "traversal operator"
  | assignment => some "object value assignment"
  | objectItem => some "object item"
  | escape => some "escape sequence"
  | codePoint digits => some s!"unicode {digits}-digit hex code"
  | _ => none

def expected : Fault → List String
  | unexpectedToken => []
  | noLineEnd => ["newline", "eof"]
  | structureHead => ["`\x7b`", "`=`", "`\"`", "identifier"]
  | noBlockOpening => ["`\x7b`"]
  | blockBody => ["`\x7d`", "newline", "identifier"]
  | noAttributeValue => ["`=`"]
  | redefinedAttribute => ["unique attribute key; found redefined attribute"]
  | expression =>
    ["`\"`", "`[`", "`\x7b`", "`-`", "`!`", "`(`", "`_`", "`<`", "letter", "digit"]
  | missing token => ["`" ++ token ++ "`"]
  | argument => ["`)`", "expression"]
  | identifier => ["identifier"]
  | step => ["`*`", "identifier", "unsigned integer"]
  | assignment => ["`=`", "`:`"]
  | objectItem => ["`\x7d`", "`,`", "newline"]
  | escape => ["`b`", "`f`", "`n`", "`r`", "`t`", "`u`", "`U`", "`\\`", "`\"`"]
  | codePoint _ => []
  | digit => ["digit"]
  | newline => ["newline"]
  | heredocEnd => ["heredoc end delimiter"]

def alternatives : List String → String
  | [] => ""
  | [a] => a
  | [a, b] => a ++ " or " ++ b
  | a :: rest => a ++ ", " ++ alternatives rest

def message (fault : Fault) : String :=
  let expectation :=
    match fault.expected with
    | [] => "unexpected token"
    | names => "expected " ++ alternatives names
  match fault.label? with
  | some label => s!"invalid {label}; {expectation}"
  | none => expectation

end Fault

def lastLine (text : List Char) : List Char :=
  (text.reverse.takeWhile (· ≠ '\n')).reverse

/--
The line and column that a complaint about an offset is reported at. Columns count characters, or bytes
if the character at the offset is not ASCII. The end of the text is reported one column past its last
character, on the line of that character.
-/
def placeOf (text : List Char) (offset : Nat) : Nat × Nat :=
  let before := takeBytes offset text
  match dropBytes offset text with
  | c :: _ =>
    let line := lastLine before
    (before.count '\n' + 1, (if c.toNat < 128 then line.length else byteLength line) + 1)
  | [] =>
    let before := text.dropLast
    (before.count '\n' + 1, (lastLine before).length + (if text.isEmpty then 1 else 2))

structure ParseError where
  line : Nat
  column : Nat
  fault : Fault
deriving DecidableEq, Repr

namespace ParseError

def atOffset (text : List Char) (offset : Nat) (fault : Fault) : ParseError :=
  let (line, column) := placeOf text offset
  ⟨line, column, fault⟩

def report (text : List Char) (e : ParseError) : String :=
  let number := toString e.line
  let margin := String.ofList (List.replicate number.length ' ')
  let line := String.ofList ((text.splitOnP (· = '\n')).getD (e.line - 1) [])
  let indent := String.ofList (List.replicate (e.column - 1) ' ')
  String.intercalate "\n" [
    s!"{margin}--> HCL parse error in line {number}, column {e.column}",
    s!"{margin} |",
    s!"{number} | {line}",
    s!"{margin} | {indent}^---",
    s!"{margin} |",
    s!"{margin} = {e.fault.message}"]

end ParseError

end BackendPolicy.Hcl
