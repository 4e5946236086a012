import BackendPolicy.Expr.Basic
import BackendPolicy.Hcl.Parser
import BackendPolicy.Text.IdentChar

/-!
This module contains the smallest parts of the language: blanks, comments, line endings, identifiers,
numbers and the pieces of strings.
-/

namespace BackendPolicy.Hcl

open BackendPolicy.Hcl.Parser

def lineEnding : Parser String :=
  orElse (do token "\n"; return "\n") (do token "\r\n"; return "\r\n")

/--
A comment up to the end of its line. A carriage return in it must belong to a line ending.
-/
def lineComment : Parser Unit := do
  orElse (token "#") (token "//")
  let _ ← takeWhile fun c => c ≠ '\n' && c ≠ '\r'
  match ← rest with
  | '\r' :: '\n' :: _ => return
  | '\r' :: _ => fail
  | _ => return

def inlineCommentLength? : List Char → Option Nat
  | '*' :: '/' :: _ => some 2
  | _ :: rest => (inlineCommentLength? rest).map (· + 1)
  | [] => none

def inlineComment : Parser Unit := do
  token "/*"
  match inlineCommentLength? (← rest) with
  | some n => advance n
  | none => fail

def blanks : Parser Unit := do
  let _ ← many (orElse (do let _ ← takeWhile1 fun c => c = ' ' || c = '\t') inlineComment)

def space : Parser Unit := do
  let isSpace (c : Char) : Bool := c = ' ' || c = '\t' || c = '\n' || c = '\r'
  let _ ← many (orElse (do let _ ← takeWhile1 isSpace) (orElse lineComment inlineComment))

def ident : Parser String := do
  match ← rest with
  | c :: cs =>
    if isIdentStart c then
      let name := c :: cs.takeWhile isIdentContinue
      advance name.length
      return String.ofList name
    else
      fail
  | [] => fail

def needIdent : Parser String :=
  expect .identifier ident

def natOfDigits (cs : List Char) : Nat :=
  cs.foldl (fun n c => 10 * n + (c.toNat - '0'.toNat)) 0

def digits : Parser (List Char) :=
  takeWhile1 Char.isDigit

def unsigned (cs : List Char) : Parser Nat :=
  let n := natOfDigits cs
  if n < 0x10000000000000000 then return n else fail

/--
An unsigned integer without leading zeros. A zero is read on its own.
-/
def position : Parser Nat := do
  match ← rest with
  | '0' :: _ => advance 1; return 0
  | _ => unsigned (← digits)

def exponent : Parser Int := do
  orElse (token "e") (token "E")
  let negative ← orElse (do token "-"; return true) (do let _ ← opt (token "+"); return false)
  let n := natOfDigits (← expect .digit digits)
  return if negative then -(n : Int) else n

def floatLiteral : Parser Number := do
  let whole ← digits
  let fraction ← opt (do token "."; digits)
  let power ← match fraction with
    | some _ => opt exponent
    | none => some <$> exponent
  let fraction := fraction.getD []
  match Number.ofDecimal? (natOfDigits (whole ++ fraction)) (power.getD 0 - fraction.length) with
  | some n => return n
  | none => fail

def number : Parser Number :=
  orElse floatLiteral (do return .int (← unsigned (← digits)))

def negativeNumber : Parser Number := do
  token "-"
  blanks
  return (← number).neg

def startsMarker : List Char → Bool
  | '$' :: '\x7b' :: _ => true
  | '%' :: '\x7b' :: _ => true
  | '$' :: '$' :: '\x7b' :: _ => true
  | '%' :: '%' :: '\x7b' :: _ => true
  | _ => false

def doubledMarker : Parser (List Char) :=
  orElse (do token "$$\x7b"; return ['$', '\x7b']) (do token "%%\x7b"; return ['%', '\x7b'])

def hexValue? (c : Char) : Option Nat :=
  if c.isDigit then some (c.toNat - '0'.toNat)
  else if 'a' ≤ c ∧ c ≤ 'f' then some (c.toNat - 'a'.toNat + 10)
  else if 'A' ≤ c ∧ c ≤ 'F' then some (c.toNat - 'A'.toNat + 10)
  else none

def natOfHex? (cs : List Char) : Option Nat :=
  cs.foldlM (fun n c => (hexValue? c).map (16 * n + ·)) 0

def codePoint (count : Nat) : Parser Char :=
  expect (.codePoint count) do
    let cs := (← rest).take count
    match natOfHex? cs with
    | some n =>
      if h : cs.length = count ∧ n.isValidChar then
        advance count
        return ⟨n.toUInt32, by
          have := h.2
          unfold Nat.isValidChar at this
          unfold UInt32.isValidChar Nat.isValidChar
          rw [UInt32.toNat_ofNat_of_lt']
          · exact this
          · simp only [UInt32.size]; omega⟩
      else
        fail
    | none => fail

def escapeSequence : Parser Char := do
  token "\\"
  match ← anyChar with
  | 'n' => return '\n'
  | 'r' => return '\r'
  | 't' => return '\t'
  | '\\' => return '\\'
  | '"' => return '"'
  | '/' => return '/'
  | 'b' => return '\x08'
  | 'f' => return '\x0c'
  | 'u' => codePoint 4
  | 'U' => codePoint 8
  | _ => complain .escape

def quotedFragment : Parser (List Char) :=
  let stops (cs : List Char) : Bool := cs.head? = some '"' || cs.head? = some '\\' || startsMarker cs
  orElse doubledMarker (orElse (do return [← escapeSequence]) (takeUntil1 stops))

/--
Text between quotes, up to the next quote or template marker, with its escapes resolved. There is at
least one fragment. A faulty escape sequence behind it is left out and ends the text.
-/
def quotedText : Parser (List Char) := do
  let first ← quotedFragment
  let step : List (List Char) × Bool → Parser (Option (List (List Char) × Bool))
    | (_, true) => return none
    | (done, false) => do
      let start ← offset
      match ← absorb quotedFragment with
      | some cs => return some (cs :: done, false)
      | none => if start < (← offset) then return some (done, true) else return none
  let (fragments, _) ← iterate step ([first], false)
  return fragments.reverse.flatten

def quotedString : Parser String := do
  token "\""
  let text ← opt quotedText
  token "\""
  return String.ofList (text.getD [])

end BackendPolicy.Hcl
