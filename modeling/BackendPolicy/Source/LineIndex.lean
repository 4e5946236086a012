import BackendPolicy.Data.Bisect
import BackendPolicy.Source.Position

/-!
This module contains `LineIndex`, a source text with the table of its line starts. It turns byte
offsets into points. A column counts characters; an offset inside a character has no character count,
there the column counts bytes.
-/

namespace BackendPolicy

def byteLength : List Char → Nat
  | [] => 0
  | c :: rest => c.utf8Size + byteLength rest

/--
Drop the first `n` bytes of a text. A character that is cut is dropped as a whole.
-/
def dropBytes : Nat → List Char → List Char
  | _, [] => []
  | n, c :: rest => if n = 0 then c :: rest else dropBytes (n - c.utf8Size) rest

def takeBytes : Nat → List Char → List Char
  | _, [] => []
  | n, c :: rest => if c.utf8Size ≤ n then c :: takeBytes (n - c.utf8Size) rest else []

/--
The number of characters in the first `n` bytes of a text, if those bytes are whole characters.
-/
def charsWithin : Nat → List Char → Option Nat
  | 0, _ => some 0
  | _ + 1, [] => none
  | n + 1, c :: rest =>
    if c.utf8Size ≤ n + 1 then
      (charsWithin (n + 1 - c.utf8Size) rest).map (· + 1)
    else
      none

def offsetsAfterNewlines (start : Nat) : List Char → List Nat
  | [] => []
  | c :: rest =>
    let next := start + c.utf8Size
    if c = '\n' then
      next :: offsetsAfterNewlines next rest
    else
      offsetsAfterNewlines next rest

structure LineIndex where
  filename : String
  text : List Char
  lineStarts : Array Nat
deriving DecidableEq, Repr

namespace LineIndex

def ofSource (filename source : String) : LineIndex where
  filename := filename
  text := source.toList
  lineStarts := (0 :: offsetsAfterNewlines 0 source.toList).toArray

def size (index : LineIndex) : Nat :=
  byteLength index.text

/--
The point at a byte offset. An offset past the end stands for the end.
-/
def pos (index : LineIndex) (offset : Nat) : Pos :=
  let byte := min offset index.size
  let line := countUpTo index.lineStarts byte
  let lineStart := (index.lineStarts[line - 1]?).getD 0
  let distance := byte - lineStart
  let column := (charsWithin distance (dropBytes lineStart index.text)).getD distance + 1
  ⟨line, column, byte⟩

/--
The range of a span. No span stands for the empty span at the start of the text.
-/
def range (index : LineIndex) (span : Option Span) : Range :=
  let span := span.getD ⟨0, 0⟩
  ⟨index.filename, index.pos span.start, index.pos span.stop⟩

end LineIndex

end BackendPolicy
