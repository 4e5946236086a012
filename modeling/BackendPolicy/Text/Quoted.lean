/-!
This module contains the written forms of texts between quotes. A template marker, which is a dollar or
percent sign before an opening brace, is kept from being read as one by a second sign.
-/

namespace BackendPolicy

def hexDigit (n : Nat) : Char :=
  if n < 10 then Char.ofNat ('0'.toNat + n) else Char.ofNat ('a'.toNat + (n - 10))

def hexFour (n : Nat) : List Char :=
  [hexDigit (n / 4096 % 16), hexDigit (n / 256 % 16), hexDigit (n / 16 % 16), hexDigit (n % 16)]

def shortEscape? (c : Char) : Option (List Char) :=
  if c = '"' then some ['\\', '"']
  else if c = '\\' then some ['\\', '\\']
  else if c = '\n' then some ['\\', 'n']
  else if c = '\r' then some ['\\', 'r']
  else if c = '\t' then some ['\\', 't']
  else if c = '\x08' then some ['\\', 'b']
  else if c = '\x0c' then some ['\\', 'f']
  else none

def escapeChar (c : Char) : List Char :=
  match shortEscape? c with
  | some cs => cs
  | none => if c.toNat < 32 then '\\' :: 'u' :: hexFour c.toNat else [c]

/--
Write one character of a quoted text in the source of a template. All control characters are escaped, with
capital digits.
-/
def escapeSourceChar (c : Char) : List Char :=
  match shortEscape? c with
  | some cs => cs
  | none =>
    if c.toNat < 32 ∨ (127 ≤ c.toNat ∧ c.toNat < 160) then
      '\\' :: 'u' :: (hexFour c.toNat).map Char.toUpper
    else
      [c]

def isMarkerSign (c : Char) : Bool :=
  c = '$' || c = '%'

/--
Double the sign of every template marker. The character behind a sign is copied along with it, so it begins
no marker itself.
-/
def doubleSigns : List Char → List Char
  | c :: d :: rest =>
    if isMarkerSign c then
      if d = '\x7b' then c :: c :: d :: doubleSigns rest else c :: d :: doubleSigns rest
    else
      c :: doubleSigns (d :: rest)
  | cs => cs

/--
Double the signs of the template markers of a text from the first marker on.
-/
def doubleMarkers : List Char → List Char
  | c :: d :: rest =>
    if isMarkerSign c ∧ d = '\x7b' then doubleSigns (c :: d :: rest) else c :: doubleMarkers (d :: rest)
  | cs => cs

/--
Whether a text contains a template marker whose sign is not doubled and which does not end the text.
-/
def hasMarker : List Char → Bool
  | '$' :: '$' :: '\x7b' :: rest => hasMarker rest
  | '%' :: '%' :: '\x7b' :: rest => hasMarker rest
  | '$' :: '\x7b' :: _ :: _ => true
  | '%' :: '\x7b' :: _ :: _ => true
  | _ :: rest => hasMarker rest
  | [] => false

def inQuotes (cs : List Char) : String :=
  "\"" ++ String.ofList cs ++ "\""

def quoteText (s : String) : String :=
  inQuotes ((doubleMarkers s.toList).flatMap escapeChar)

/--
Write a string in quotes. A text with a live template marker is taken to be written already.
-/
def quote (s : String) : String :=
  if hasMarker s.toList then inQuotes s.toList else quoteText s

def escapeSource (cs : List Char) : List Char :=
  (doubleMarkers cs).flatMap escapeSourceChar

def quoteSource (s : String) : String :=
  inQuotes (escapeSource s.toList)

end BackendPolicy
