import BackendPolicy.Config.Basic
import BackendPolicy.Text.Escaped
import BackendPolicy.Toml.Document

/-!
This module contains the reading of configurations: `Config.ofToml` accepts exactly the tables that
describe one. The version is looked at first, then the parts in the byte order of their keys. Unknown keys
are left out.
-/

namespace BackendPolicy

namespace Toml

def describe : Toml → String
  | string s => "string " ++ quoteDisplayed s
  | integer i => s!"integer `{i}`"
  | float f => "floating point `" ++ floatText .expanded f ++ "`"
  | bool b => "boolean `" ++ (if b then "true" else "false") ++ "`"
  | datetime _ => "map"
  | array _ => "sequence"
  | table _ => "map"

def sorted (fields : List (String × Toml)) : List (String × Toml) :=
  (Dict.ofList fields).entries

/--
The fields of a value, if it is a table. A date counts as a table with the date as its only field.
-/
def fields? : Toml → Option (List (String × Toml))
  | table fields => some (sorted fields)
  | datetime text => some [("$__toml_private_datetime", .string text)]
  | _ => none

end Toml

namespace Config

inductive DecodeError where
  | syntaxFault (fault : Toml.Fault)
  | missingField (name : String)
  | unknownVariant (name : String) (expected : List String)
  | wrongType (found : Toml) (expected : String)
  | wrongLength (length : Nat) (expected : String)
  | notOneField

def DecodeError.message : DecodeError → String
  | syntaxFault fault => fault.message
  | missingField name => s!"missing field `{name}`"
  | unknownVariant name expected =>
    s!"unknown variant `{name}`, expected " ++ String.intercalate " or " (expected.map Toml.Fault.ticked)
  | wrongType found expected => s!"invalid type: {found.describe}, expected {expected}"
  | wrongLength length expected => s!"invalid length {length}, expected {expected}"
  | notOneField => "invalid value: map, expected map with a single key"

def decodeBool : Toml → Except DecodeError Bool
  | .bool b => .ok b
  | v => .error (.wrongType v "a boolean")

def decodeString : Toml → Except DecodeError String
  | .string s => .ok s
  | v => .error (.wrongType v "a string")

/--
Take a value as the settings of a rule: a table that says whether it is enabled, or an array of just that.
-/
def decodeRule (v : Toml) : Except DecodeError Bool :=
  match v with
  | .array items =>
    match items with
    | [] => .error (.wrongLength 0 "struct RuleConfig with 1 element")
    | item :: rest => do
      let enabled ← decodeBool item
      if rest.isEmpty then
        return enabled
      else
        throw (.wrongLength items.length "1 element in sequence")
  | v =>
    match v.fields? with
    | none => .error (.wrongType v "struct RuleConfig")
    | some fields =>
      match fields.lookup "enabled" with
      | none => .error (.missingField "enabled")
      | some enabled => decodeBool enabled

def decodeFields (decode : Toml → Except DecodeError α) (v : Toml) : Except DecodeError (Dict α) :=
  match v.fields? with
  | none => .error (.wrongType v "a map")
  | some fields => do
    return Dict.ofList (← fields.mapM fun (name, v) => do return (name, ← decode v))

def decodeFormatName (name : String) : Except DecodeError Format :=
  match Format.ofName? name with
  | some format => .ok format
  | none => .error (.unknownVariant name ["table", "json"])

/--
Take a value as the form of a report: its name, or a table with its name as the only key and an empty
table as value.
-/
def decodeFormat (v : Toml) : Except DecodeError Format :=
  match v with
  | .string name => decodeFormatName name
  | v =>
    match v.fields? with
    | none => .error (.wrongType v "string or map")
    | some [(name, inner)] => do
      let format ← decodeFormatName name
      match inner with
      | .table [] => return format
      | inner => throw (.wrongType inner "unit")
    | some _ => .error .notOneField

def decodeVersion (fields : List (String × Toml)) : Except DecodeError Unit :=
  match fields.lookup "_version" with
  | none => .error (.missingField "_version")
  | some (.string version) => if version = "1" then .ok () else .error (.unknownVariant version ["1"])
  | some v => .error (.wrongType v "variant identifier")

def decodePart (fields : List (String × Toml)) (name : String) (absent : α)
    (decode : Toml → Except DecodeError α) : Except DecodeError α :=
  match fields.lookup name with
  | none => .ok absent
  | some v => decode v

def ofFields (fields : List (String × Toml)) : Except DecodeError Config := do
  decodeVersion fields
  let format ← decodePart fields "format" .table decodeFormat
  let rules ← decodePart fields "rules" .empty (decodeFields decodeRule)
  let vars ← decodePart fields "variables" .empty (decodeFields decodeString)
  return ⟨rules, vars, format⟩

def ofToml (document : Toml) : Except DecodeError Config :=
  ofFields (document.fields?.getD [])

def ofText (text : String) : Except DecodeError Config :=
  match Toml.ofText text.toList with
  | .error fault => .error (.syntaxFault fault)
  | .ok document => ofToml document

end Config

end BackendPolicy
