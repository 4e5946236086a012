import BackendPolicy.Text.Unprintable

/-!
This module contains the quotation of texts in messages and listings: quotes, backslashes and characters
that do not print are escaped.
-/

namespace BackendPolicy

def hexDigits (n : Nat) : List Char :=
  Nat.toDigits 16 n

def escapeDisplayed (c : Char) : List Char :=
  if c = '"' then ['\\', '"']
  else if c = '\\' then ['\\', '\\']
  else if c = '\n' then ['\\', 'n']
  else if c = '\r' then ['\\', 'r']
  else if c = '\t' then ['\\', 't']
  else if c.toNat = 0 then ['\\', '0']
  else if isUnprintable c then '\\' :: 'u' :: '\x7b' :: (hexDigits c.toNat ++ ['\x7d'])
  else [c]

def quoteDisplayed (s : String) : String :=
  String.ofList ('"' :: s.toList.flatMap escapeDisplayed ++ ['"'])

end BackendPolicy
