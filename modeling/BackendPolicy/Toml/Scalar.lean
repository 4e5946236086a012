import BackendPolicy.Toml.Datetime
import BackendPolicy.Toml.Statement
import BackendPolicy.Value.Number

/-!
This module contains the decoding of TOML keys and scalars.
-/

namespace BackendPolicy.Toml

def digitValue? (base : Nat) (c : Char) : Option Nat :=
  let n :=
    if c.isDigit then c.toNat - '0'.toNat
    else if 'a' ≤ c ∧ c ≤ 'f' then c.toNat - 'a'.toNat + 10
    else if 'A' ≤ c ∧ c ≤ 'F' then c.toNat - 'A'.toNat + 10
    else base
  if n < base then some n else none

def natOfDigits? (base : Nat) (cs : List Char) : Option Nat :=
  cs.foldlM (fun n c => (digitValue? base c).map (base * n + ·)) 0

def decodeCodePoint (count : Nat) (cs : List Char) : Except Fault Char :=
  let digits := (cs.take count).takeWhile fun c => (digitValue? 16 c).isSome
  if digits.length < count then
    .error .tooFewDigits
  else
    match natOfDigits? 16 digits with
    | some n => if n.isValidChar then .ok (Char.ofNat n) else .error .invalidCodePoint
    | none => .error .invalidCodePoint

def escapeValue? : Char → Option Char
  | 'b' => some '\x08'
  | 'e' => some '\x1b'
  | 'f' => some '\x0c'
  | 'n' => some '\n'
  | 'r' => some '\r'
  | 't' => some '\t'
  | '"' => some '"'
  | '\\' => some '\\'
  | _ => none

def codePointDigits? : Char → Option Nat
  | 'x' => some 2
  | 'u' => some 4
  | 'U' => some 8
  | _ => none

/--
Drop line endings and blanks behind a backslash at the end of a line. If there is no line ending the
backslash escapes nothing.
-/
def afterContinuation? (cs : List Char) : Option (List Char) :=
  match cs.dropWhile Token.isBlank with
  | '\n' :: _ | '\r' :: '\n' :: _ =>
    some (cs.dropWhile fun c => Token.isBlank c || c = '\n' || c = '\r')
  | _ => none

/--
Whether a character may stand in a string: everything but control characters. A tab may, and so may a line
ending if the string spans lines.
-/
def isVisible (multiline : Bool) (c : Char) : Bool :=
  c = '\t' || (32 ≤ c.toNat && c.toNat ≠ 127) || (multiline && (c = '\n' || c = '\r'))

def invisibleFault : Quote → Fault
  | .basic => .invisible "basic string" ["non-double-quote visible characters", Fault.ticked "\\"]
  | .literal => .invisible "literal string" ["non-single-quote visible characters"]
  | .multilineBasic => .invisible "multi-line basic string" [Fault.ticked "\\", "characters"]
  | .multilineLiteral => .invisible "multi-line literal string" ["non-single-quote characters"]

def checkVisible (quote : Quote) (text : List Char) : Except Fault Unit :=
  if text.all (isVisible (quote = .multilineLiteral)) then .ok () else .error (invisibleFault quote)

/--
Resolve the escapes of a basic string. A backslash at the end of a line continues the line if the
string spans lines.
-/
def decodeEscapes (quote : Quote) (text : List Char) : Except Fault (List Char) :=
  go text.length text
where
  go : Nat → List Char → Except Fault (List Char)
    | 0, _ => .ok []
    | _, [] => .ok []
    | fuel + 1, '\\' :: rest => do
      match (if quote = .multilineBasic then afterContinuation? rest else none) with
      | some rest => go fuel rest
      | none =>
        match rest with
        | [] => throw .missingEscape
        | c :: rest =>
          match escapeValue? c, codePointDigits? c with
          | some d, _ => return d :: (← go fuel rest)
          | none, some count => return (← decodeCodePoint count rest) :: (← go fuel (rest.drop count))
          | none, none => throw .missingEscape
    | fuel + 1, c :: rest => do
      if isVisible (quote = .multilineBasic) c then
        return c :: (← go fuel rest)
      else
        throw (invisibleFault quote)

def unquote? (mark : Char) (count : Nat) (text : List Char) : Option (List Char) :=
  let quotes := List.replicate count mark
  let inner := text.drop count
  if quotes.isSuffixOf inner then some (inner.take (inner.length - count)) else none

def dropFirstLineEnd : List Char → List Char
  | '\n' :: rest => rest
  | '\r' :: '\n' :: rest => rest
  | cs => cs

def decodeQuoted (quote : Quote) (text : List Char) : Except Fault String := do
  match quote with
  | .basic =>
    match unquote? '"' 1 text with
    | some inner => return String.ofList (← decodeEscapes quote inner)
    | none => throw .invalidBasicString
  | .literal =>
    match unquote? '\x27' 1 text with
    | some inner => do
      checkVisible quote inner
      return String.ofList inner
    | none => throw .invalidLiteralString
  | .multilineBasic =>
    match unquote? '"' 3 text with
    | some inner => return String.ofList (← decodeEscapes quote (dropFirstLineEnd inner))
    | none => throw .invalidMultilineBasicString
  | .multilineLiteral =>
    match unquote? '\x27' 3 text with
    | some inner => do
      checkVisible quote inner
      return String.ofList (dropFirstLineEnd inner)
    | none => throw .invalidMultilineLiteralString

def isKeyChar (c : Char) : Bool :=
  c.isAlphanum || c = '-' || c = '_'

def decodeKey (raw : Raw) : Except Fault String :=
  match raw.quote with
  | some quote => decodeQuoted quote raw.text
  | none =>
    if raw.text.isEmpty then .error .emptyKey
    else if raw.text.all isKeyChar then .ok (String.ofList raw.text)
    else .error .invalidKey

def dropUnderscores (isDigit : Char → Bool) (cs : List Char) : Except Fault (List Char) :=
  let pairs := (none :: cs.map some).zip (cs.zip (cs.tail.map some ++ [none]))
  let misplaced := pairs.any fun (before, c, after) =>
    c = '_' && !(before.any isDigit && after.any isDigit)
  if misplaced then .error .misplacedUnderscore else .ok (cs.filter (· ≠ '_'))

def decodeInteger (base : Nat) (negative : Bool) (cs : List Char) : Except Fault Toml := do
  let digits ← dropUnderscores (fun c => (digitValue? base c).isSome) cs
  match digits, natOfDigits? base digits with
  | _ :: _, some n => return .integer (if negative then -(n : Int) else n)
  | _, _ => throw .invalidInteger

def hasLeadingZero : List Char → Bool
  | '0' :: c :: _ => c.isDigit || c = '_'
  | _ => false

def decodeFloat (negative : Bool) (cs : List Char) : Except Fault Toml := do
  let cs ← dropUnderscores Char.isDigit cs
  let (mantissa, power) := (cs.takeWhile fun c => c ≠ 'e' && c ≠ 'E', cs.dropWhile fun c => c ≠ 'e' && c ≠ 'E')
  let (whole, fraction) := (mantissa.takeWhile (· ≠ '.'), mantissa.dropWhile (· ≠ '.'))
  let wellFormed (part : List Char) := match part with
    | [] => true
    | _ :: digits => digits ≠ [] && digits.all Char.isDigit
  let (powerNegative, powerDigits) := match power.drop 1 with
    | '-' :: rest => (true, rest)
    | '+' :: rest => (false, rest)
    | rest => (false, rest)
  if whole.isEmpty ∨ !whole.all Char.isDigit ∨ !wellFormed fraction
      ∨ (power ≠ [] ∧ (powerDigits.isEmpty ∨ !powerDigits.all Char.isDigit)) then
    throw .invalidInteger
  if hasLeadingZero whole then
    throw .leadingZero
  let digits := (natOfDigits? 10 (whole ++ fraction.drop 1)).getD 0
  let size := (natOfDigits? 10 powerDigits).getD 0
  let exponent : Int := (if powerNegative then -(size : Int) else size) - (fraction.drop 1).length
  let f := match Number.ofDecimal? digits exponent with
    | some n => n.toFloat
    | none => 1 / 0
  return .float (if negative then -f else f)

def decodeNumber (sign : List Char) (cs : List Char) : Except Fault Toml := do
  let signed := sign ≠ []
  let negative := sign = ['-']
  match cs with
  | '0' :: 'x' :: digits => if signed then throw .invalidInteger else decodeInteger 16 false digits
  | '0' :: 'o' :: digits => if signed then throw .invalidInteger else decodeInteger 8 false digits
  | '0' :: 'b' :: digits => if signed then throw .invalidInteger else decodeInteger 2 false digits
  | cs =>
    let rest := cs.dropWhile Char.isDigit
    match rest with
    | [] => if hasLeadingZero cs then throw .leadingZero else decodeInteger 10 negative cs
    | '-' :: _ | ':' :: _ => decodeDatetime (sign ++ cs)
    | c :: _ =>
      if ' ' ∈ rest then throw .unquotedString
      else if '.' ∈ rest ∨ 'e' ∈ rest ∨ 'E' ∈ rest then decodeFloat negative cs
      else if c = '_' then
        if hasLeadingZero cs then throw .leadingZero else decodeInteger 10 negative cs
      else throw .unquotedString

def decodeWord (word : String) (fault : String → Fault) (v : Toml) (cs : List Char) : Except Fault Toml :=
  if cs = word.toList then .ok v else .error (fault word)

def decodeUnsigned (sign : List Char) (cs : List Char) : Except Fault Toml :=
  let apply (f : Float) : Float := if sign = ['-'] then -f else f
  match cs with
  | [] => .error .unquotedString
  | c :: _ =>
    if c.isDigit ∨ c = '_' ∨ c = '.' then decodeNumber sign cs
    else if c = 'i' ∨ c = 'I' then decodeWord "inf" .invalidFloat (.float (apply (1 / 0))) cs
    else if c = 'n' ∨ c = 'N' then decodeWord "nan" .invalidFloat (.float (apply (0 / 0))) cs
    else if sign ≠ [] then .error .unquotedString
    else if c = 't' ∨ c = 'T' then decodeWord "true" .invalidBoolean (.bool true) cs
    else if c = 'f' ∨ c = 'F' then decodeWord "false" .invalidBoolean (.bool false) cs
    else .error .unquotedString

def decodeScalar (raw : Raw) : Except Fault Toml := do
  match raw.quote, raw.text with
  | some quote, text => return .string (← decodeQuoted quote text)
  | none, '+' :: rest => decodeUnsigned ['+'] rest
  | none, '-' :: rest => decodeUnsigned ['-'] rest
  | none, text => decodeUnsigned [] text

end BackendPolicy.Toml
