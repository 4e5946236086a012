import BackendPolicy.Text.Escaped
import BackendPolicy.Text.Quoted
import BackendPolicy.Value.Text

/-!
This module contains JSON documents and their written form over several lines.
-/

namespace BackendPolicy

/--
A JSON document. Objects keep the order of their fields.
-/
inductive Json where
  | null
  | bool (b : Bool)
  | integer (i : Int)
  | float (f : Float)
  | string (s : String)
  | array (items : List Json)
  | object (fields : List (String × Json))
deriving Inhabited

namespace Json

def quoted (s : String) : String :=
  String.ofList ('"' :: s.toList.flatMap escapeChar ++ ['"'])

mutual

/--
Write a document whose lines after the first are indented to a level.
-/
def textAt (level : Nat) : Json → String
  | .null => "null"
  | .bool b => if b then "true" else "false"
  | .integer i => toString i
  | .float f => floatText .compactPointed f
  | .string s => quoted s
  | .array [] => "[]"
  | .array (item :: items) =>
    "[\n" ++ Value.indentation (level + 1) ++ textAt (level + 1) item ++ itemsAt (level + 1) items
      ++ "\n" ++ Value.indentation level ++ "]"
  | .object [] => "\x7b\x7d"
  | .object ((key, value) :: fields) =>
    "\x7b\n" ++ Value.indentation (level + 1) ++ quoted key ++ ": " ++ textAt (level + 1) value
      ++ fieldsAt (level + 1) fields ++ "\n" ++ Value.indentation level ++ "\x7d"

def itemsAt (level : Nat) : List Json → String
  | [] => ""
  | item :: items => ",\n" ++ Value.indentation level ++ textAt level item ++ itemsAt level items

def fieldsAt (level : Nat) : List (String × Json) → String
  | [] => ""
  | (key, value) :: fields =>
    ",\n" ++ Value.indentation level ++ quoted key ++ ": " ++ textAt level value ++ fieldsAt level fields

end

def pretty (j : Json) : String :=
  j.textAt 0

def describe : Json → String
  | null => "null"
  | bool b => "boolean `" ++ (if b then "true" else "false") ++ "`"
  | integer i => s!"integer `{i}`"
  | float f => "floating point `" ++ floatText .compactPointed f ++ "`"
  | string s => "string " ++ quoteDisplayed s
  | array _ => "sequence"
  | object _ => "map"

end Json

end BackendPolicy
