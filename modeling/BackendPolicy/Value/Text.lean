import BackendPolicy.Text.Quoted
import BackendPolicy.Value.Basic

/-!
This module contains the written form of values, as templates and error messages show them. Items of an
array stand on lines of their own. A comma follows an item if there is another one, unless the last array
or object that is opened in it is empty.
-/

namespace BackendPolicy

namespace Value

def indentation (level : Nat) : String :=
  String.ofList (List.replicate (2 * level) ' ')

mutual

/--
Whether the last array or object that is opened in the written form of a value is empty.
-/
def endsEmpty : Value → Bool
  | .array items => lastEndsEmpty items
  | .object fields => lastFieldEndsEmpty fields
  | _ => false

def lastEndsEmpty : List Value → Bool
  | [] => true
  | [item] => endsEmpty item
  | _ :: items => lastEndsEmpty items

def lastFieldEndsEmpty : List (String × Value) → Bool
  | [] => true
  | [(_, value)] => endsEmpty value
  | _ :: fields => lastFieldEndsEmpty fields

end

mutual

/--
Write a value whose lines after the first are indented to a level.
-/
def textAt (level : Nat) : Value → String
  | .null => "null"
  | .bool b => if b then "true" else "false"
  | .number n => n.text
  | .string s => quote s
  | .array [] => "[]"
  | .array (item :: items) =>
    "[\n" ++ indentation (level + 1) ++ textAt (level + 1) item
      ++ moreItems (level + 1) (endsEmpty item) items ++ "\n" ++ indentation level ++ "]"
  | .object [] => "\x7b\x7d"
  | .object (field :: fields) =>
    "\x7b\n" ++ fieldsAt (level + 1) (field :: fields) ++ indentation level ++ "\x7d"

def moreItems (level : Nat) (bare : Bool) : List Value → String
  | [] => ""
  | item :: items =>
    (if bare then "\n" else ",\n") ++ indentation level ++ textAt level item
      ++ moreItems level (endsEmpty item) items

def fieldsAt (level : Nat) : List (String × Value) → String
  | [] => ""
  | (key, value) :: fields =>
    indentation level ++ quoteText key ++ " = " ++ textAt level value ++ "\n" ++ fieldsAt level fields

end

def text (v : Value) : String :=
  v.textAt 0

def inlineText : Value → String
  | .string s => s
  | v => v.text

end Value

end BackendPolicy
