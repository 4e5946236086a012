import BackendPolicy.Toml.Basic
import BackendPolicy.Toml.Token

/-!
This module contains the statements of TOML documents, table headers and assignments, before their keys and
values are decoded. A document that is no list of statements is refused here, whatever its keys and values
are.
-/

namespace BackendPolicy.Toml

structure Raw where
  quote : Option Quote
  text : List Char
deriving DecidableEq, Repr, Inhabited

def Raw.nothing : Raw := ⟨none, []⟩

inductive RawValue where
  | scalar (raw : Raw)
  | array (items : List RawValue)
  | table (fields : List (List Raw × RawValue))
deriving Inhabited

inductive Statement where
  | header (isArray : Bool) (path : List Raw)
  | assignment (path : List Raw) (value : RawValue)
deriving Inhabited

def skipBlanks : List Token → List Token
  | .blank _ :: ts => skipBlanks ts
  | ts => ts

def skipLines : List Token → List Token
  | .blank _ :: ts => skipLines ts
  | .comment :: ts => skipLines ts
  | .newline :: ts => skipLines ts
  | ts => ts

/--
A simple key. Where none is written there is an empty one.
-/
def simpleKey : List Token → Raw × List Token
  | .atom text :: ts => (⟨none, text⟩, ts)
  | .quoted quote text :: ts => (⟨some quote, text⟩, ts)
  | ts => (.nothing, ts)

def moreKeys : Nat → List Token → List Raw × List Token
  | 0, ts => ([], ts)
  | fuel + 1, ts =>
    match skipBlanks ts with
    | .dot :: rest =>
      let (key, rest) := simpleKey (skipBlanks rest)
      let (keys, rest) := moreKeys fuel rest
      (key :: keys, rest)
    | _ => ([], ts)

def dottedKey (ts : List Token) : List Raw × List Token :=
  let (key, rest) := simpleKey ts
  let (keys, rest) := moreKeys rest.length rest
  (key :: keys, rest)

/--
The rest of a scalar that is not quoted: atoms and dots, also behind blanks.
-/
def moreAtoms : List Token → List Char × List Token
  | .atom text :: ts =>
    let (more, rest) := moreAtoms ts
    (text ++ more, rest)
  | .dot :: ts =>
    let (more, rest) := moreAtoms ts
    ('.' :: more, rest)
  -- The blanks are kept: what they divide is refused later as one scalar.
  | .blank blank :: .atom text :: ts =>
    let (more, rest) := moreAtoms ts
    (blank ++ text ++ more, rest)
  | ts => ([], ts)

mutual

def value : Nat → List Token → Except Fault (RawValue × List Token)
  | 0, _ => .error .unclosedArray
  | fuel + 1, ts =>
    match ts with
    | .quoted quote text :: rest => .ok (.scalar ⟨some quote, text⟩, rest)
    | .atom _ :: _ | .dot :: _ =>
      let (text, rest) := moreAtoms ts
      .ok (.scalar ⟨none, text⟩, rest)
    | .openBracket :: rest => arrayItems fuel [] false rest
    | .openBrace :: rest => tableFields fuel [] false rest
    | .closeBracket :: _ => .error .unopenedArray
    | .closeBrace :: _ => .error .unopenedInlineTable
    | .equals :: _ => .error .extraEquals
    | ts => .ok (.scalar .nothing, ts)

def arrayItems : Nat → List RawValue → Bool → List Token → Except Fault (RawValue × List Token)
  | 0, _, _, _ => .error .unclosedArray
  | fuel + 1, done, needsComma, ts =>
    match skipLines ts with
    | [] => .error .unclosedArray
    | .closeBracket :: rest => .ok (.array done, rest)
    | .comma :: rest => if needsComma then arrayItems fuel done false rest else .error (.extraComma "array")
    | ts => do
      if needsComma then
        throw (.missingComma "array")
      let (item, rest) ← value fuel ts
      arrayItems fuel (done ++ [item]) true rest

def tableFields : Nat → List (List Raw × RawValue) → Bool → List Token → Except Fault (RawValue × List Token)
  | 0, _, _, _ => .error .unclosedInlineTable
  | fuel + 1, done, needsComma, ts =>
    match skipLines ts with
    | [] => .error .unclosedInlineTable
    | .closeBrace :: rest => .ok (.table done, rest)
    | .comma :: rest =>
      if needsComma then tableFields fuel done false rest else .error (.extraComma "inline table")
    | ts => do
      if needsComma then
        throw (.missingComma "inline table")
      let (path, rest) := dottedKey ts
      match skipLines rest with
      | .equals :: rest =>
        let (v, rest) ← value fuel (skipLines rest)
        tableFields fuel (done ++ [(path, v)]) true rest
      | _ => throw .keyWithoutValue

end

def lineEnd (ts : List Token) : Except Fault (List Token) :=
  match skipBlanks ts with
  | [] => .ok []
  | .newline :: rest => .ok rest
  | .comment :: .newline :: rest => .ok rest
  | [.comment] => .ok []
  | _ => .error .unexpectedKeyOrValue

def assignment (path : List Raw) (ts : List Token) : Except Fault (Statement × List Token) := do
  match skipBlanks ts with
  | .equals :: rest =>
    let (v, rest) ← value (2 * rest.length + 2) (skipBlanks rest)
    return (.assignment path v, ← lineEnd rest)
  | _ => throw .keyWithoutValue

def header (ts : List Token) : Except Fault (Statement × List Token) := do
  let (isArray, ts) := match ts with
    | .openBracket :: rest => (true, rest)
    | ts => (false, ts)
  let (path, rest) := dottedKey (skipBlanks ts)
  match isArray, skipBlanks rest with
  | false, .closeBracket :: rest => return (.header false path, ← lineEnd rest)
  | true, .closeBracket :: .closeBracket :: rest => return (.header true path, ← lineEnd rest)
  | false, _ => throw .unclosedTable
  | true, _ => throw .unclosedArrayTable

def statements (ts : List Token) : Except Fault (List Statement) :=
  go ts.length ts
where
  go : Nat → List Token → Except Fault (List Statement)
    | 0, _ => .ok []
    | fuel + 1, ts =>
      match skipLines ts with
      | [] => .ok []
      | .openBracket :: rest => do
        let (s, rest) ← header rest
        return s :: (← go fuel rest)
      | .closeBracket :: _ => .error .unopenedTable
      | .comma :: _ | .openBrace :: _ | .closeBrace :: _ => .error .missingKey
      | ts => do
        let (path, rest) := dottedKey ts
        let (s, rest) ← assignment path rest
        return s :: (← go fuel rest)

end BackendPolicy.Toml
