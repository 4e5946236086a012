/-!
This module contains TOML values and the complaints of their parser.
-/

namespace BackendPolicy

/--
A TOML value. A table lists its fields in the order of their first appearance; no key occurs twice.
-/
inductive Toml where
  | string (s : String)
  | integer (i : Int)
  | float (f : Float)
  | bool (b : Bool)
  | datetime (text : String)
  | array (items : List Toml)
  | table (fields : List (String × Toml))
deriving Inhabited

namespace Toml

inductive Fault where
  | keyWithoutValue
  | missingKey
  | emptyKey
  | invalidKey
  | duplicateKey
  | cannotExtend (type : String)
  | unclosedTable
  | unclosedArrayTable
  | unopenedTable
  | unclosedArray
  | unclosedInlineTable
  | unopenedArray
  | unopenedInlineTable
  | extraComma (place : String)
  | missingComma (place : String)
  | extraEquals
  | unexpectedKeyOrValue
  | unquotedString
  | invalidBasicString
  | invalidLiteralString
  | invalidMultilineBasicString
  | invalidMultilineLiteralString
  | invisible (kind : String) (expected : List String)
  | missingEscape
  | tooFewDigits
  | invalidCodePoint
  | invalidBoolean (expected : String)
  | invalidFloat (expected : String)
  | invalidInteger
  | invalidDatetime (part : String) (expected : Option String)
  | leadingZero
  | misplacedUnderscore
deriving DecidableEq, Repr

namespace Fault

def ticked (s : String) : String :=
  "`" ++ s ++ "`"

def describe : Fault → String × List String
  | keyWithoutValue => ("key with no value", ["`=`"])
  | missingKey => ("invalid key-value pair", ["key"])
  | emptyKey => ("unquoted keys cannot be empty", ["letters", "numbers", "`-`", "`_`"])
  | invalidKey => ("invalid unquoted key", ["letters", "numbers", "`-`", "`_`"])
  | duplicateKey => ("duplicate key", [])
  | cannotExtend type => (s!"cannot extend value of type {type} with a dotted key", [])
  | unclosedTable => ("unclosed table", ["`]`"])
  | unclosedArrayTable => ("unclosed array table", ["`]`"])
  | unopenedTable => ("missing table open", ["`[`"])
  | unclosedArray => ("unclosed array", ["`]`"])
  | unclosedInlineTable => ("unclosed inline table", ["`\x7d`"])
  | unopenedArray => ("missing array opening", ["`[`"])
  | unopenedInlineTable => ("missing inline table opening", ["`\x7b`"])
  | extraComma place => (s!"extra comma in {place}", [if place = "array" then "value" else "key"])
  | missingComma place => (s!"missing comma between {place} elements", ["`,`"])
  | extraEquals => ("extra `=`", [])
  | unexpectedKeyOrValue => ("unexpected key or value", ["newline", "`#`"])
  | unquotedString => ("string values must be quoted", ["literal string"])
  | invalidBasicString => ("invalid basic string", ["`\"`"])
  | invalidLiteralString => ("invalid literal string", [ticked (String.singleton '\x27')])
  | invalidMultilineBasicString => ("invalid multi-line basic string", ["`\"`"])
  | invalidMultilineLiteralString =>
    ("invalid multi-line literal string", [ticked (String.singleton '\x27')])
  | invisible kind expected => (s!"invalid {kind}", expected)
  | missingEscape =>
    ("missing escaped value", ["b", "e", "f", "n", "r", "\\", "\"", "x", "u", "U"].map ticked)
  | tooFewDigits => ("too few unicode value digits", ["unicode hexadecimal value"])
  | invalidCodePoint => ("invalid value", ["unicode hexadecimal value"])
  | invalidBoolean expected => ("invalid boolean", [ticked expected])
  | invalidFloat expected => ("invalid float", [ticked expected])
  | invalidInteger => ("invalid integer", ["digits"])
  | invalidDatetime part expected => (s!"invalid {part}", expected.toList)
  | leadingZero => ("unexpected leading zero", ["nothing"])
  | misplacedUnderscore => ("`_` may only go between digits", ["digits"])

def message (fault : Fault) : String :=
  match fault.describe with
  | (what, []) => what
  | (what, expected) => what ++ ", expected " ++ String.intercalate ", " expected

end Fault

end Toml

end BackendPolicy
