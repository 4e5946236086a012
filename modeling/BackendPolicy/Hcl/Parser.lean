import BackendPolicy.Hcl.Fault

/-!
This module contains parsers over a text and the ways to combine them. A parser that fails softly leaves
the choice to an alternative; a hard failure ends the whole parse with a complaint about an offset. All
repetition is done by `many` and `iterate`, which end because every round consumes text.

Beside the text that is left a parser keeps substitutes for parts of the text it has read: `sliced` gives
what a parser consumed with the substitutes put in.
-/

namespace BackendPolicy.Hcl

structure Substitution where
  span : Span
  text : List Char
deriving Repr

/--
Put the substitutes into a text that starts at an offset. Their spans do not overlap and are given from left
to right.
-/
def applySubstitutions (offset : Nat) (cs : List Char) : List Substitution → List Char
  | [] => cs
  | s :: substitutions =>
    takeBytes (s.span.start - offset) cs ++ s.text
      ++ applySubstitutions s.span.stop (dropBytes (s.span.stop - offset) cs) substitutions

/--
What is left of a text, the byte offset at which it starts and the substitutions in what is before it, the
last one first.
-/
structure Cursor where
  rest : List Char
  offset : Nat
  substitutions : List Substitution
deriving Repr

namespace Cursor

def start (text : List Char) : Cursor := ⟨text, 0, []⟩

def advance (c : Cursor) (count : Nat) : Cursor :=
  { c with rest := c.rest.drop count, offset := c.offset + byteLength (c.rest.take count) }

def advanceTo (c : Cursor) (offset : Nat) : Cursor :=
  { c with rest := dropBytes (offset - c.offset) c.rest, offset := max c.offset offset }

/--
Put a substitute for a stretch of text. It covers the substitutions inside the stretch.
-/
def substitute (c : Cursor) (span : Span) (text : List Char) : Cursor :=
  { c with substitutions := ⟨span, text⟩ :: c.substitutions.dropWhile fun s => span.start ≤ s.span.start }

def textBetween (c next : Cursor) : List Char :=
  let substitutions := (next.substitutions.takeWhile fun s => c.offset ≤ s.span.start).reverse
  applySubstitutions c.offset (takeBytes (next.offset - c.offset) c.rest) substitutions

end Cursor

inductive Reply (α : Type) where
  | ok (value : α) (next : Cursor)
  | soft
  | hard (offset : Nat) (fault : Fault)
deriving Repr

def Parser (α : Type) : Type := Cursor → Reply α

namespace Parser

variable {α β : Type}

def run (p : Parser α) (c : Cursor) : Reply α := p c

protected def pure (a : α) : Parser α := fun c => .ok a c

protected def bind (p : Parser α) (f : α → Parser β) : Parser β := fun c =>
  match p c with
  | .ok a next => f a next
  | .soft => .soft
  | .hard offset fault => .hard offset fault

instance : Monad Parser where
  pure := Parser.pure
  bind := Parser.bind

def fail : Parser α := fun _ => .soft

def complain (fault : Fault) : Parser α := fun c => .hard c.offset fault

/--
Turn a soft failure into a complaint about the place where the parser began.
-/
def expect (fault : Fault) (p : Parser α) : Parser α := fun c =>
  match p c with
  | .soft => .hard c.offset fault
  | reply => reply

def orElse (p q : Parser α) : Parser α := fun c =>
  match p c with
  | .soft => q c
  | reply => reply

def opt (p : Parser α) : Parser (Option α) := fun c =>
  match p c with
  | .ok a next => .ok (some a) next
  | .soft => .ok none c
  | .hard offset fault => .hard offset fault

def rest : Parser (List Char) := fun c => .ok c.rest c

def restAfter (p : Parser α) : Parser (List Char) := fun c =>
  match p c with
  | .ok _ next => .ok next.rest c
  | .soft => .soft
  | .hard offset fault => .hard offset fault

def offset : Parser Nat := fun c => .ok c.offset c

def advance (count : Nat) : Parser Unit := fun c => .ok () (c.advance count)

def anyChar : Parser Char := do
  match ← rest with
  | c :: _ => advance 1; return c
  | [] => fail

def token (s : String) : Parser Unit := do
  let cs := s.toList
  if cs.isPrefixOf (← rest) then advance cs.length else fail

def need (s : String) : Parser Unit :=
  expect (.missing s) (token s)

def takeWhile (p : Char → Bool) : Parser (List Char) := do
  let cs := (← rest).takeWhile p
  advance cs.length
  return cs

def takeWhile1 (p : Char → Bool) : Parser (List Char) := do
  match ← takeWhile p with
  | [] => fail
  | cs => return cs

def lengthUntil (stops : List Char → Bool) : List Char → Nat
  | [] => 0
  | c :: cs => if stops (c :: cs) then 0 else lengthUntil stops cs + 1

def takeUntil1 (stops : List Char → Bool) : Parser (List Char) := do
  let cs ← rest
  match lengthUntil stops cs with
  | 0 => fail
  | n => advance n; return cs.take n

def spanned (p : Parser α) : Parser (α × Span) := do
  let start ← offset
  let a ← p
  let stop ← offset
  return (a, ⟨start, stop⟩)

def sliced (p : Parser α) : Parser (α × List Char) := fun c =>
  match p c with
  | .ok a next => .ok (a, c.textBetween next) next
  | .soft => .soft
  | .hard offset fault => .hard offset fault

def substitute (span : Span) (text : List Char) : Parser Unit := fun c => .ok () (c.substitute span text)

def substituted (p : Parser α) (text : α → List Char) : Parser α := do
  let (a, span) ← spanned p
  substitute span (text a)
  return a

/--
Go on behind what a parser complains about, without a result.
-/
def absorb (p : Parser α) : Parser (Option α) := fun c =>
  match p c with
  | .ok a next => .ok (some a) next
  | .soft => .ok none c
  | .hard offset _ => .ok none (c.advanceTo offset)

/--
Repeat a parser until it fails softly or consumes nothing.
-/
def many (p : Parser α) (c : Cursor) : Reply (List α) :=
  match p c with
  | .ok a next =>
    if next.rest.length < c.rest.length then
      match many p next with
      | .ok as last => .ok (a :: as) last
      | .soft => .soft
      | .hard offset fault => .hard offset fault
    else
      .ok [] c
  | .soft => .ok [] c
  | .hard offset fault => .hard offset fault
termination_by c.rest.length

/--
Improve a result step by step until there is no further step. A step that finds nothing to do consumes
nothing.
-/
def iterate (step : α → Parser (Option α)) (a : α) (c : Cursor) : Reply α :=
  match step a c with
  | .ok (some b) next =>
    if next.rest.length < c.rest.length then iterate step b next else .ok b next
  | .ok none _ => .ok a c
  | .soft => .soft
  | .hard offset fault => .hard offset fault
termination_by c.rest.length

def sepBy1 (p : Parser α) (separator : Parser β) : Parser (List α) := do
  let a ← p
  let as ← many (do let _ ← separator; p)
  return a :: as

def sepBy (p : Parser α) (separator : Parser β) : Parser (List α) := do
  return (← opt (sepBy1 p separator)).getD []

end Parser

end BackendPolicy.Hcl
