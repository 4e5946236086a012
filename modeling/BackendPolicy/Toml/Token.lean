/-!
This module contains the tokens of TOML documents. Every text is a list of tokens; whether they make sense
is decided later.
-/

namespace BackendPolicy.Toml

inductive Quote where
  | basic
  | literal
  | multilineBasic
  | multilineLiteral
deriving DecidableEq, Repr

inductive Token where
  | dot
  | equals
  | comma
  | openBracket
  | closeBracket
  | openBrace
  | closeBrace
  | blank (text : List Char)
  | comment
  | newline
  | quoted (quote : Quote) (text : List Char)
  | atom (text : List Char)
deriving DecidableEq, Repr

namespace Token

def isBlank (c : Char) : Bool := c = ' ' || c = '\t'

def isAtom (c : Char) : Bool :=
  c ∉ ['.', '=', ',', '[', ']', '\x7b', '\x7d', ' ', '\t', '#', '\n', '\r', '"', '\x27']

/--
The length of a string of one line behind its opening quote, with the closing quote if there is one. A
backslash protects the character after it if `escapes`.
-/
def lineStringLength (mark : Char) (escapes : Bool) : List Char → Nat
  | [] => 0
  | '\\' :: c :: rest =>
    if escapes ∧ c ≠ '\n' then lineStringLength mark escapes rest + 2
    else if c = mark then 2
    else if c = '\n' then 1
    else lineStringLength mark escapes rest + 2
  | c :: rest =>
    if c = mark then 1
    else if c = '\n' then 0
    else lineStringLength mark escapes rest + 1

/--
The length of a string of several lines behind its opening quotes, with the closing quotes if there are any.
Up to two quotes before the closing ones belong to the string.
-/
def multilineStringLength (mark : Char) (escapes : Bool) : List Char → Nat
  | [] => 0
  | '\\' :: c :: rest =>
    if escapes then multilineStringLength mark escapes rest + 2
    else multilineStringLength mark escapes (c :: rest) + 1
  | c :: d :: e :: more =>
    if c = mark ∧ d = mark ∧ e = mark then
      3 + ((more.take 2).takeWhile (· = mark)).length
    else
      multilineStringLength mark escapes (d :: e :: more) + 1
  | rest => rest.length
termination_by text => text.length

def quotedAt (mark : Char) (text : List Char) : Token × List Char :=
  let escapes := mark = '"'
  if (text.take 3).all (· = mark) ∧ 3 ≤ text.length then
    let length := 3 + multilineStringLength mark escapes (text.drop 3)
    (quoted (if escapes then .multilineBasic else .multilineLiteral) (text.take length), text.drop length)
  else
    let length := 1 + lineStringLength mark escapes (text.drop 1)
    (quoted (if escapes then .basic else .literal) (text.take length), text.drop length)

def next : List Char → Option (Token × List Char)
  | [] => none
  | '\r' :: '\n' :: rest => some (newline, rest)
  | c :: rest =>
    if c = '.' then some (dot, rest)
    else if c = '=' then some (equals, rest)
    else if c = ',' then some (comma, rest)
    else if c = '[' then some (openBracket, rest)
    else if c = ']' then some (closeBracket, rest)
    else if c = '\x7b' then some (openBrace, rest)
    else if c = '\x7d' then some (closeBrace, rest)
    else if c = '\n' ∨ c = '\r' then some (newline, rest)
    else if c = '#' then some (comment, rest.dropWhile (· ≠ '\n'))
    else if c = '"' ∨ c = '\x27' then some (quotedAt c (c :: rest))
    else if isBlank c then some (blank (c :: rest.takeWhile isBlank), rest.dropWhile isBlank)
    else some (atom (c :: rest.takeWhile isAtom), rest.dropWhile isAtom)

def ofText (text : List Char) : List Token :=
  let text := if text.head? = some '\ufeff' then text.drop 1 else text
  go text.length text
where
  go : Nat → List Char → List Token
    | 0, _ => []
    | fuel + 1, text =>
      match next text with
      | some (token, rest) => token :: go fuel rest
      | none => []

end Token

end BackendPolicy.Toml
