/-!
This module contains the white space of Unicode and the stripping of blanks at the ends of a text.
-/

namespace BackendPolicy

def isUnicodeSpace (c : Char) : Bool :=
  let n := c.toNat
  (9 ≤ n && n ≤ 13) || n = 32 || n = 0x85 || n = 0xa0 || n = 0x1680 || (0x2000 ≤ n && n ≤ 0x200a)
    || n = 0x2028 || n = 0x2029 || n = 0x202f || n = 0x205f || n = 0x3000

def isBlank (c : Char) : Bool :=
  isUnicodeSpace c && c ≠ '\n' && c ≠ '\r'

/--
Drop the blanks at the start of a text, up to and including one line ending.
-/
def stripStart (cs : List Char) : List Char :=
  match cs.dropWhile isBlank with
  | '\n' :: rest => rest
  | '\r' :: '\n' :: rest => rest
  | rest => rest

def stripEnd (cs : List Char) : List Char :=
  match cs.reverse.dropWhile isBlank with
  | '\n' :: '\r' :: rest => rest.reverse
  | '\n' :: rest => rest.reverse
  | rest => rest.reverse

def stripEnds (atStart atEnd : Bool) (s : String) : String :=
  let cs := s.toList
  let cs := if atStart then stripStart cs else cs
  let cs := if atEnd then stripEnd cs else cs
  String.ofList cs

end BackendPolicy
