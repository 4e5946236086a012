import BackendPolicy.Value.Number

/-!
This module contains the values that expressions evaluate to. Objects keep their keys in the order of
their first appearance.
-/

namespace BackendPolicy

inductive Value where
  | null
  | bool (b : Bool)
  | number (n : Number)
  | string (s : String)
  | array (items : List Value)
  | object (fields : List (String × Value))
deriving Repr, Inhabited

namespace Value

/--
Give a key of an object its value. A new key goes to the end, an old one keeps its place.
-/
def putField (key : String) (value : Value) : List (String × Value) → List (String × Value)
  | [] => [(key, value)]
  | (k, v) :: rest => if k = key then (k, value) :: rest else (k, v) :: putField key value rest

/--
Turn a list of fields into the fields of an object: a repeated key keeps its first place and takes its
last value.
-/
def fieldsOfList (fields : List (String × Value)) : List (String × Value) :=
  fields.foldl (fun acc field => putField field.1 field.2 acc) []

mutual

def same : Value → Value → Bool
  | .null, .null => true
  | .bool a, .bool b => a = b
  | .number a, .number b => a == b
  | .string a, .string b => a = b
  | .array as, .array bs => sameItems as bs
  | .object as, .object bs => as.length = bs.length && sameFields as bs
  | _, _ => false

def sameItems : List Value → List Value → Bool
  | [], [] => true
  | a :: as, b :: bs => same a b && sameItems as bs
  | _, _ => false

def sameFields : List (String × Value) → List (String × Value) → Bool
  | [], _ => true
  | (key, a) :: as, bs =>
    match bs.lookup key with
    | some b => same a b && sameFields as bs
    | none => false

end

end Value

end BackendPolicy
