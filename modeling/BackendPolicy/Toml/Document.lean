import BackendPolicy.Toml.Scalar

/-!
This module contains the assembly of TOML documents: statements are carried out one after the other on the
tables they name. A table remembers how it came about, because that decides how it may be extended.
-/

namespace BackendPolicy.Toml

/--
How a table came about: on the way to another one, by a dotted key, by its own header or inline.
-/
inductive Origin where
  | implicit
  | dotted
  | header
  | inline
deriving DecidableEq, Repr

inductive Node where
  | scalar (v : Toml)
  | array (items : List Node)
  | table (origin : Origin) (fields : List (String × Node))
  | tables (items : List (List (String × Node)))
deriving Inhabited

structure Table where
  origin : Origin
  fields : List (String × Node)

namespace Node

mutual

def finish : Node → Toml
  | .scalar v => v
  | .array items => .array (finishAll items)
  | .table _ fields => .table (finishFields fields)
  | .tables items => .array (finishTables items)

def finishAll : List Node → List Toml
  | [] => []
  | node :: nodes => node.finish :: finishAll nodes

def finishFields : List (String × Node) → List (String × Toml)
  | [] => []
  | (key, node) :: fields => (key, node.finish) :: finishFields fields

def finishTables : List (List (String × Node)) → List Toml
  | [] => []
  | fields :: rest => .table (finishFields fields) :: finishTables rest

end

def typeName : Node → String
  | .scalar (.string _) => "string"
  | .scalar (.integer _) => "integer"
  | .scalar (.float _) => "float"
  | .scalar (.bool _) => "boolean"
  | .scalar (.datetime _) => "datetime"
  | .scalar (.array _) | .array _ | .tables _ => "array"
  | .scalar (.table _) | .table _ _ => "table"

end Node

def setField (key : String) (node : Node) : List (String × Node) → List (String × Node)
  | [] => [(key, node)]
  | (k, n) :: rest => if k = key then (k, node) :: rest else (k, n) :: setField key node rest

/--
Change the table that a path leads to. Tables on the way that do not exist are created.
-/
def modify (dotted : Bool) (change : Table → Except Fault Table) :
    List String → Table → Except Fault Table
  | [], t => change t
  | key :: path, t => do
    let node ←
      match t.fields.lookup key with
      | none => do
        let t ← modify dotted change path ⟨if dotted then .dotted else .implicit, []⟩
        pure (Node.table t.origin t.fields)
      | some (.table origin fields) => do
        if origin = .inline then
          throw (.cannotExtend "inline table")
        if dotted ∧ origin = .header then
          throw .duplicateKey
        let t ← modify dotted change path ⟨origin, fields⟩
        pure (Node.table t.origin t.fields)
      | some (.tables items) => do
        -- A path through an array of tables leads to the last one.
        let last ← modify dotted change path ⟨.header, items.getLast?.getD []⟩
        pure (Node.tables (items.dropLast ++ [last.fields]))
      | some node => throw (.cannotExtend node.typeName)
    return { t with fields := setField key node t.fields }

def assign (path : List String) (node : Node) (t : Table) : Except Fault Table :=
  match path.getLast? with
  | none => .ok t
  | some key =>
    let parents := path.dropLast
    modify true (fun parent => do
      if parents ≠ [] ∧ parent.origin ≠ .dotted then
        throw .duplicateKey
      match parent.fields.lookup key with
      | some _ => throw .duplicateKey
      | none => return { parent with fields := parent.fields ++ [(key, node)] }) parents t

def openTable (isArray : Bool) (path : List String) (root : Table) : Except Fault Table :=
  match path.getLast? with
  | none => .ok root
  | some key =>
    modify false (fun parent => do
      let node ←
        match isArray, parent.fields.lookup key with
        | false, none => pure (.table .header [])
        | false, some (.table .implicit fields) => pure (.table .header fields)
        | true, none => pure (.tables [[]])
        | true, some (.tables items) => pure (.tables (items ++ [[]]))
        | _, some _ => throw .duplicateKey
      return { parent with fields := setField key node parent.fields }) path.dropLast root

mutual

def decodeValue : RawValue → Except Fault Node
  | .scalar raw => do return .scalar (← decodeScalar raw)
  | .array items => do return .array (← decodeItems items)
  | .table fields => do
    let t ← decodeFields ⟨.header, []⟩ fields
    return .table .inline t.fields

def decodeItems : List RawValue → Except Fault (List Node)
  | [] => .ok []
  | item :: items => do
    let node ← decodeValue item
    let nodes ← decodeItems items
    return node :: nodes

def decodeFields (done : Table) : List (List Raw × RawValue) → Except Fault Table
  | [] => .ok done
  | (path, raw) :: fields => do
    let path ← path.mapM decodeKey
    let node ← decodeValue raw
    let done ← assign path node done
    decodeFields done fields

end

/--
Carry out statements. Assignments go to the table of the last header.
-/
def carryOut : List String → Table → List Statement → Except Fault Table
  | _, root, [] => .ok root
  | _, root, .header isArray path :: rest => do
    let path ← path.mapM decodeKey
    let root ← openTable isArray path root
    carryOut path root rest
  | current, root, .assignment path raw :: rest => do
    let path ← path.mapM decodeKey
    let node ← decodeValue raw
    let root ← modify false (assign path node) current root
    carryOut current root rest

def ofText (text : List Char) : Except Fault Toml := do
  let root ← carryOut [] ⟨.header, []⟩ (← statements (Token.ofText text))
  return (Node.table .header root.fields).finish

end BackendPolicy.Toml
