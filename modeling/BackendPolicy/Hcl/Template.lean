import BackendPolicy.Hcl.Lexeme
import BackendPolicy.Text.Blank
import BackendPolicy.Text.Quoted

/-!
This module contains the parser of templates, given one of expressions. What the parser finds in a template
becomes a source text first, in which the escapes of literals are resolved. The value of the template comes
from the elements that are read from this source.
-/

namespace BackendPolicy.Hcl

open BackendPolicy.Hcl.Parser

structure Mode where
  /-- Line endings count as blanks. -/
  newlines : Bool
  /-- A conditional may start. -/
  conditionals : Bool
deriving DecidableEq, Repr

def Mode.line : Mode := ⟨false, true⟩

def Mode.bracketed : Mode := ⟨true, true⟩

abbrev Nested := Mode → Parser Expr

/--
An element of a template with its source, on its own and as part of a template between quotes.
-/
structure Piece where
  element : Element
  source : List Char
  quotedSource : List Char

/--
A literal element. Template markers in it are doubled in the source, and between quotes its special
characters are escaped.
-/
def Piece.literal (cs : List Char) : Piece :=
  ⟨.literal (String.ofList cs), doubleMarkers cs, escapeSource cs⟩

def sourceOf (pieces : List Piece) : List Char :=
  pieces.flatMap Piece.source

def quotedSourceOf (pieces : List Piece) : List Char :=
  pieces.flatMap Piece.quotedSource

def literalOf (fragment : Parser (List Char)) : Parser Piece := do
  match ← many fragment with
  | [] => fail
  | fragments => return Piece.literal fragments.flatten

def rawLiteral (stops : List Char → Bool) : Parser Piece :=
  literalOf (orElse doubledMarker (takeUntil1 fun cs => startsMarker cs || stops cs))

def tilde : Parser Bool := do
  return (← opt (token "~")).isSome

def marker (opening : String) (inside : Parser α) : Parser (Strip × α) := do
  token opening
  let left ← tilde
  let a ← inside
  let right ← tilde
  need "\x7d"
  return (⟨left, right⟩, a)

def interpolation (nested : Nested) : Parser Piece := do
  let ((strip, e), source) ← sliced <| marker "$\x7b" do
    space
    let e ← nested .bracketed
    space
    return e
  return ⟨.interpolation strip e, source, source⟩

def directiveMarker (word : Parser Unit) (inside : Parser α) : Parser ((Strip × α) × List Char) :=
  sliced <| marker "%\x7b" do
    space
    word
    space
    let a ← inside
    space
    return a

def binders : Parser Binders := do
  let first ← needIdent
  space
  let second ← opt do
    token ","
    space
    let name ← needIdent
    space
    return name
  need "in"
  match second with
  | some value => return ⟨some first, value⟩
  | none => return ⟨none, first⟩

def ifDirective (nested : Nested) (body : Parser (List Piece)) : Parser Piece := do
  let ((opening, condition), head) ← directiveMarker (token "if") (nested .line)
  let onTrue ← body
  let otherwise ← opt do
    let ((middle, _), turn) ← directiveMarker (token "else") (pure ())
    let onFalse ← body
    return (middle, turn, onFalse)
  let ((closing, _), tail) ← directiveMarker (need "endif") (pure ())
  let elements (pieces : List Piece) := pieces.map Piece.element
  match otherwise with
  | some (middle, turn, onFalse) =>
    let sourceBy (render : List Piece → List Char) := head ++ render onTrue ++ turn ++ render onFalse ++ tail
    return ⟨.ifElse opening condition (elements onTrue) (some middle) (elements onFalse) closing,
      sourceBy sourceOf, sourceBy quotedSourceOf⟩
  | none =>
    let sourceBy (render : List Piece → List Char) := head ++ render onTrue ++ tail
    return ⟨.ifElse opening condition (elements onTrue) none [] closing,
      sourceBy sourceOf, sourceBy quotedSourceOf⟩

def forDirective (nested : Nested) (body : Parser (List Piece)) : Parser Piece := do
  let ((opening, names, collection), head) ← directiveMarker (token "for") do
    let names ← binders
    space
    let collection ← nested .line
    return (names, collection)
  let pieces ← body
  let ((closing, _), tail) ← directiveMarker (need "endfor") (pure ())
  let sourceBy (render : List Piece → List Char) := head ++ render pieces ++ tail
  return ⟨.forEach opening names collection (pieces.map Piece.element) closing,
    sourceBy sourceOf, sourceBy quotedSourceOf⟩

/--
The elements of a template with a given form of literals. The bodies of directives are templates without
quotes.
-/
def piecesWith (nested : Nested) (body : Parser (List Piece)) (literal : Parser Piece) :
    Parser (List Piece) :=
  many (orElse literal
    (orElse (interpolation nested) (orElse (ifDirective nested body) (forDirective nested body))))

def rawPieces (nested : Nested) : Nat → Parser (List Piece)
  | 0 => fail
  | depth + 1 => piecesWith nested (rawPieces nested depth) (rawLiteral fun _ => false)

def pieces (nested : Nested) (literal : Parser Piece) : Parser (List Piece) := fun c =>
  piecesWith nested (rawPieces nested c.rest.length) literal c

def sourcePieces (nested : Nested) : Parser (List Piece) :=
  pieces nested (rawLiteral fun _ => false)

/--
Turn what the parser found in a template into an expression. Its elements are still to be read.
-/
def templateOf (form : TemplateForm) (pieces : List Piece) : Expr :=
  .template form (String.ofList (sourceOf pieces)) []

def quotedTemplate (nested : Nested) : Parser (List Piece) := do
  token "\""
  let pieces ← pieces nested (do return Piece.literal (← quotedText))
  token "\""
  return pieces

def startsEndLine (word : String) (cs : List Char) : Bool :=
  let afterBlanks (cs : List Char) := word.toList.isPrefixOf (cs.dropWhile fun c => c = ' ' || c = '\t')
  match cs with
  | '\n' :: rest => afterBlanks rest
  | '\r' :: '\n' :: rest => afterBlanks rest
  | _ => false

def endLine (ending : String) : List Piece → List Piece
  | [] => [Piece.literal ending.toList]
  | [⟨.literal s, _, _⟩] => [Piece.literal (s ++ ending).toList]
  | piece :: rest => piece :: endLine ending rest

def linesOf (cs : List Char) : List (List Char) :=
  go (cs.splitOnP (· = '\n'))
where
  go : List (List Char) → List (List Char)
    | [] => []
    | [unended] => if unended = [] then [] else [unended]
    | line :: lines => (if line.getLast? = some '\r' then line.dropLast else line) :: go lines

def indentOf? (skipped : Nat) (lines : List (List Char)) : Option Nat :=
  let indents := ((lines.drop skipped).filter (· ≠ [])).map fun line => (line.takeWhile isUnicodeSpace).length
  indents.min?

def mapLines (f : Nat → List Char → List Char) (cs : List Char) : List Char :=
  let text := (((linesOf cs).mapIdx f).intersperse ['\n']).flatten
  if cs.getLast? = some '\n' then text ++ ['\n'] else text

def dedent (count skipped : Nat) (cs : List Char) : List Char :=
  if count = 0 then cs else mapLines (fun i line => if i < skipped then line else line.drop count) cs

def indent (count : Nat) (cs : List Char) : List Char :=
  if count = 0 then
    cs
  else
    mapLines (fun _ line => if line = [] then [] else List.replicate count ' ' ++ line) cs

def continuesLine : Bool → List Piece → List Bool
  | _, [] => []
  | continued, ⟨.literal s, _, _⟩ :: rest =>
    continued :: continuesLine (s.toList.getLast? ≠ some '\n') rest
  | continued, _ :: rest => continued :: continuesLine true rest

/--
The indentation that all lines of a heredoc share. An element other than a literal has none.
-/
def sharedIndent (first : List Piece) : Nat :=
  let indents := (first.zip (continuesLine false first)).filterMap fun (piece, continued) =>
    match piece.element with
    | .literal s => indentOf? continued.toNat (linesOf s.toList)
    | _ => if continued then none else some 0
  indents.min?.getD 0

def dedentPieces (count : Nat) (first : List Piece) : List Piece :=
  (first.zip (continuesLine false first)).map fun (piece, continued) =>
    match piece.element with
    | .literal s => Piece.literal (dedent count continued.toNat s.toList)
    | _ => piece

/--
A template of whole lines with its end word and the blanks before that word. The indentation that the lines
share has been removed from them.
-/
structure Heredoc where
  word : String
  dedents : Bool
  indentation : Nat
  lines : List Piece
  margin : List Char

def Heredoc.source (h : Heredoc) : List Char :=
  (if h.dedents then "<<-" else "<<").toList ++ h.word.toList ++ '\n' :: indent h.indentation (sourceOf h.lines)
    ++ h.margin ++ h.word.toList

def heredocLines (nested : Nested) : Parser Heredoc := do
  token "<<"
  let dedents := (← opt (token "-")).isSome
  let word ← needIdent
  let _ ← expect .newline lineEnding
  let content ← opt do
    let first ← pieces nested (rawLiteral (startsEndLine word))
    let ending ← lineEnding
    return endLine ending first
  let margin ← takeWhile fun c => c = ' ' || c = '\t'
  expect .heredocEnd (token word)
  let first := content.getD []
  let indentation := if dedents then sharedIndent first else 0
  return ⟨word, dedents, indentation, dedentPieces indentation first, margin⟩

def heredoc (nested : Nested) : Parser Expr := do
  let h ← substituted (heredocLines nested) Heredoc.source
  return templateOf (.heredoc h.word h.dedents) h.lines

end BackendPolicy.Hcl
